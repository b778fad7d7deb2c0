import TrafficFabric.Coordinator
import TrafficFabric.FittingPlans

set_option autoImplicit false

/- What holds of a coordinator whatever its handlers do: each action is a few calls of the engine at
most, so the invariants of the engine's runs are the coordinator's. -/
namespace TrafficFabric

open Interleaving (run run_pure run_bind run_call run_ite Pool)

theorem MessageType.ofCode_code (type : MessageType) :
    ofCode MessageType.all MessageType.code type.code = some type := by cases type <;> decide

namespace Coordinator

variable {storage : Storage}

/-! The engine. -/

/-- A fence record is the write of another holder of the repository. -/
theorem persistFence_history (engine : Engine storage) (fence : FenceRecord) :
    ∃ history, (persistFence engine fence).2 = engine.run history := by
  unfold persistFence
  cases attached : engine.repository with
  | none => exact ⟨[], rfl⟩
  | some repository =>
      dsimp only
      split
      · exact ⟨[], rfl⟩
      · refine ⟨[.sharedWrite (storage.append repository .fence (encodeFence fence)).2], ?_⟩
        show _ = { engine with repository := engine.repository.map fun _ => _ }
        rw [attached]
        rfl

theorem perform_history (action : Action) (coordinator : Coordinator storage) :
    ∃ history, (perform action coordinator).2.engine = coordinator.engine.run history := by
  cases action with
  | stopping | epoch | incarnation | boot | isFenced | findRegistered | addFence | register | get | explain
  | incumbent | stop => exact ⟨[], rfl⟩
  | persistFence fence => exact persistFence_history coordinator.engine fence
  | submitSnapshot snapshot => exact ⟨[.submitSnapshot snapshot], rfl⟩
  | declare request => exact ⟨[.declare request], rfl⟩
  | validate ref => exact ⟨[.validate ref], rfl⟩
  | solve ref => exact ⟨[.solve ref], rfl⟩
  | authorize ref => exact ⟨[.authorize ref], rfl⟩
  | commit ref intent => exact ⟨[.commit ref intent], rfl⟩
  | supersede incumbent replacement => exact ⟨[.supersede incumbent replacement], rfl⟩
  | retire ref => exact ⟨[.retire ref], rfl⟩

/-- The engine of a started coordinator is fresh, or has recovered. -/
theorem start_history {opened : Option storage.Repository} {boot : BootId} {started : Coordinator storage}
    (answered : start opened boot = .ok started) :
    (∃ history, started.engine = (Engine.new {}).run history) ∧ started.incarnation = Gen.first ∧
      started.stopping = false ∧ started.registered = OrdMap.empty := by
  unfold start at answered
  cases opened with
  | none =>
      cases answered
      exact ⟨⟨[], rfl⟩, rfl, rfl, rfl⟩
  | some repository =>
      dsimp only at answered
      split at answered
      · cases answered
      · split at answered
        · cases answered
        · rename_i repository _
          split at answered
          · cases answered
          · rename_i engine recovered
            cases answered
            refine ⟨⟨[.attachRepository repository, .recoverFromRepository], ?_⟩, rfl, rfl, rfl⟩
            exact (congrArg Prod.snd recovered).symm

/-! The registry's constants. -/

theorem perform_incarnation (action : Action) (coordinator : Coordinator storage) :
    (perform action coordinator).2.incarnation = coordinator.incarnation := by
  cases action <;> rfl

theorem perform_epoch (action : Action) (coordinator : Coordinator storage) :
    (perform action coordinator).2.epoch = coordinator.epoch := by
  cases action <;> rfl

/-! Reachable states. -/

variable {toJson : Explanation → Text} {coordinator : Coordinator storage}

/-- What a start establishes and every action keeps holds of every reachable state. -/
theorem Reachable.induct (reachable : Reachable toJson coordinator) (holds : Coordinator storage → Prop)
    (start_holds : ∀ opened boot started, start opened boot = .ok started → holds started)
    (action_keeps : ∀ action state, holds state → holds (perform action state).2) : holds coordinator := by
  obtain ⟨opened, boot, started, tasks, schedule, answered, rfl⟩ := reachable
  exact Pool.keeps holds action_keeps (start_holds opened boot started answered) schedule

/-- Frames that are handled one after the other lead to a reachable state. -/
theorem served_reachable (toJson : Explanation → Text) {opened : Option storage.Repository} {boot : BootId}
    {started : Coordinator storage}
    (answered : start opened boot = .ok started) (frames : List Frame) :
    Reachable toJson
      (frames.foldl (fun state frame => (run perform (dispatch toJson frame) state).2) started) := by
  let tasks : Nat → Task := fun thread => (frames[thread]?.map Task.handle).getD .stop
  obtain ⟨schedule, reached⟩ := Pool.in_turn perform
    (frames.map fun frame => (Task.handle frame).program toJson)
    ⟨started, fun thread => (tasks thread).program toJson⟩ 0 (by
      intro place within
      rw [List.length_map] at within
      simp [tasks, within])
  refine ⟨opened, boot, started, tasks, schedule, answered, ?_⟩
  rw [reached, List.foldl_map]
  congr 1
  funext state frame
  unfold Task.program
  rw [run_bind]
  rfl

theorem Reachable.history (reachable : Reachable toJson coordinator) :
    ∃ history, coordinator.engine = (Engine.new {}).run history := by
  refine reachable.induct _ (fun _ _ _ answered => (start_history answered).1) ?_
  rintro action state ⟨past, same⟩
  obtain ⟨later, moved⟩ := perform_history action state
  refine ⟨past ++ later, ?_⟩
  rw [moved, same]
  exact List.foldl_append.symm

theorem Reachable.steady (reachable : Reachable toJson coordinator) : coordinator.engine.Steady := by
  obtain ⟨history, same⟩ := reachable.history
  rw [same]
  exact Engine.run_steady {} history

theorem Reachable.keyed (reachable : Reachable toJson coordinator) :
    Keyed coordinator.engine.plans := reachable.steady.sound.keyed

theorem Reachable.incarnation (reachable : Reachable toJson coordinator) :
    coordinator.incarnation = Gen.first := by
  refine reachable.induct _ (fun _ _ _ answered => (start_history answered).2.1) ?_
  intro action state before
  rw [perform_incarnation, before]

/-- The plans a coordinator holds are within the bounds of the decoder, up to the number of shares. -/
theorem Reachable.sized (checked : storage.Checked) (reachable : Reachable toJson coordinator) :
    Engine.Sized False coordinator.engine := by
  obtain ⟨history, same⟩ := reachable.history
  rw [same]
  exact Engine.run_sized checked {} history False.elim

/-! A binding by itself. -/

/-- The binding is that of a registered boot that is not fenced, under the running coordinator. -/
structure Bound (coordinator : Coordinator storage) (binding : MutationBinding) : Prop where
  running : coordinator.stopping = false
  valid : binding.valid = true
  incarnation : binding.coordinatorIncarnation = coordinator.incarnation
  epoch : binding.coordinatorEpoch = coordinator.epoch
  free : coordinator.fenced binding.publisher binding.publisherBoot = false
  registered : coordinator.registered.find? binding.publisher = some binding.publisherBoot

/-- What a binding is answered in one state. -/
def bindingStatus (coordinator : Coordinator storage) (binding : MutationBinding) : Status :=
  (run perform (validateBinding binding) coordinator).1

/-- The sections of the check change nothing. -/
theorem run_validateBinding (binding : MutationBinding) (coordinator : Coordinator storage) :
    run perform (validateBinding binding) coordinator =
      (bindingStatus coordinator binding, coordinator) := by
  refine Prod.ext rfl ?_
  unfold validateBinding
  simp only [run_call, run_ite, run_pure]
  dsimp +instances only [perform]
  repeat' split
  all_goals rfl

theorem bindingStatus_eq_ok (binding : MutationBinding) (coordinator : Coordinator storage) :
    bindingStatus coordinator binding = .ok () ↔ Bound coordinator binding := by
  unfold bindingStatus validateBinding
  simp only [run_call, run_ite, run_pure]
  dsimp +instances only [perform]
  constructor
  · intro accepted
    split at accepted
    · cases accepted
    rename_i running
    split at accepted
    · cases accepted
    rename_i valid
    split at accepted
    · cases accepted
    rename_i current
    split at accepted
    · cases accepted
    rename_i free
    split at accepted
    · cases accepted
    rename_i registered
    rw [not_or, not_ne_iff, not_ne_iff] at current
    exact
      { running := by simpa using running
        valid := by simpa using valid
        incarnation := current.1
        epoch := current.2
        free := by simpa using free
        registered := by simpa using registered }
  · intro bound
    rw [if_neg (by simp [bound.running]), if_neg (by simp [bound.valid]),
      if_neg (by simp [bound.incarnation, bound.epoch]), if_neg (by simp [bound.free]),
      if_neg (by simp [bound.registered])]

/-! A publisher of its own. -/

/-- A boot of a publisher that has none yet is registered. -/
theorem run_handleRegisterPublisher {request : RegisterPublisherRequest} (coordinator : Coordinator storage)
    (current : request.coordinatorEpoch = coordinator.epoch ∧
      request.coordinatorIncarnation = coordinator.incarnation)
    (free : coordinator.fenced request.publisher request.boot = false)
    (fresh : coordinator.registered.find? request.publisher = none) :
    (run perform (handleRegisterPublisher request) coordinator).2 =
      { coordinator with registered := coordinator.registered.insert request.publisher request.boot } := by
  unfold handleRegisterPublisher
  simp only [run_call, run_ite]
  dsimp +instances only [perform]
  rw [if_neg (by simp [current.1, current.2]), if_neg (by simp [free]), fresh]
  rfl

def plannerBoot : BootId := ⟨Vector.replicate 16 1⟩

def plannerRegistration : RegisterPublisherRequest :=
  { publisher := named "planner"
    boot := plannerBoot
    coordinatorIncarnation := Gen.first
    coordinatorEpoch := 1 }

def plannerBinding : MutationBinding :=
  { publisher := named "planner"
    publisherBoot := plannerBoot
    coordinatorIncarnation := Gen.first
    coordinatorEpoch := 1
    attempt := named "attempt-1"
    attemptGeneration := Gen.first }

/-- A coordinator without a data directory, where one publisher is registered. -/
def plannerStarted (storage : Storage) : Coordinator storage :=
  { engine := Engine.new {}
    incarnation := Gen.first
    boot := plannerBoot
    epoch := 1
    registered := OrdMap.empty.insert (named "planner") plannerBoot }

/-- The frames that follow the registration lead to a reachable state. -/
theorem plannerStarted_serves (frames : List Frame) :
    Reachable toJson (frames.foldl (fun state frame => (run perform (dispatch toJson frame) state).2)
      (plannerStarted storage)) := by
  let started : Coordinator storage :=
    { engine := Engine.new {}
      incarnation := Gen.first
      boot := plannerBoot
      epoch := 1 }
  have decoded : decodeRegisterPublisherRequest plannerRegistration.encode = .ok plannerRegistration := by
    decide +kernel
  have registered : (run perform (dispatch toJson
      (makeFrame .registerPublisherRequest plannerRegistration.encode)) started).2 =
        plannerStarted storage := by
    unfold dispatch
    rw [show (makeFrame .registerPublisherRequest plannerRegistration.encode).type =
      MessageType.registerPublisherRequest.code from rfl, MessageType.ofCode_code]
    dsimp only [makeFrame]
    rw [decoded]
    exact run_handleRegisterPublisher started ⟨rfl, rfl⟩ rfl rfl
  have answered : start (none : Option storage.Repository) plannerBoot = .ok started := rfl
  have served := served_reachable toJson answered
    (makeFrame .registerPublisherRequest plannerRegistration.encode :: frames)
  rw [List.foldl_cons, registered] at served
  exact served

theorem plannerStarted_bound : Bound (plannerStarted storage) plannerBinding :=
  { running := rfl
    valid := by decide
    incarnation := rfl
    epoch := rfl
    free := rfl
    registered := by
      show (OrdMap.empty.insert (named "planner") plannerBoot).find? (named "planner") = some plannerBoot
      rw [OrdMap.find?_insert_self] }

end Coordinator

end TrafficFabric
