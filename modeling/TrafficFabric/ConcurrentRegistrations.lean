import TrafficFabric.CoordinatorRuns
import TrafficFabric.Lib.Disciplines

set_option autoImplicit false

/- Registrations of one publisher that are handled at the same time. The boot that is replaced is looked up
in one section and replaced in another. -/
namespace TrafficFabric

open Interleaving (Pool Program run Discipline)

namespace Coordinator

variable {storage : Storage} {Thread : Type} [DecidableEq Thread]

/-- What a registration has found out: the boot its look-up found registered, and the one it has fenced and
not replaced yet. -/
structure Finding where
  seen : Option BootId := none
  fencing : Option BootId := none

def Finding.noted (finding : Finding) (coordinator : Coordinator storage) : Action → Finding
  | .findRegistered publisher => { finding with seen := coordinator.registered.find? publisher }
  | .addFence fence => { finding with fencing := some fence.boot }
  | .register _ _ => { finding with fencing := none }
  | _ => finding

/-- The boot a registration replaces is still the one its look-up found, and its own boot was not fenced
meanwhile, unless it is the registered one. -/
def Unraced (coordinator : Coordinator storage) (finding : Finding) : Action → Prop
  | .register publisher boot => coordinator.registered.find? publisher = finding.seen ∧
      (finding.seen ≠ some boot → coordinator.fenced publisher boot = false)
  | _ => True

section Publisher

variable (publisher : PublisherId)

/-- The boot is registered, or it is fenced. -/
def Held (coordinator : Coordinator storage) (boot : BootId) : Prop :=
  coordinator.registered.find? publisher = some boot ∨ coordinator.fenced publisher boot = true

/-- A registered boot that is fenced is about to be replaced. -/
def Replacing (world : Coordinator storage × (Thread → Finding)) : Prop :=
  ∀ boot, world.1.registered.find? publisher = some boot → world.1.fenced publisher boot = true →
    ∃ thread, (world.2 thread).fencing = some boot

/-- What the other registrations leave as it is. -/
structure Leaves (thread : Thread) (world later : Coordinator storage × (Thread → Finding)) : Prop where
  finding : later.2 thread = world.2 thread
  fenced : ∀ boot, world.1.fenced publisher boot = true → later.1.fenced publisher boot = true
  held : ∀ boot, Held publisher world.1 boot → Held publisher later.1 boot

variable {publisher}

omit [DecidableEq Thread] in
theorem Leaves.refl (thread : Thread) (world : Coordinator storage × (Thread → Finding)) :
    Leaves publisher thread world world :=
  ⟨rfl, fun _ fenced => fenced, fun _ held => held⟩

omit [DecidableEq Thread] in
theorem Leaves.trans {thread : Thread} {first second third : Coordinator storage × (Thread → Finding)}
    (before : Leaves publisher thread first second) (after : Leaves publisher thread second third) :
    Leaves publisher thread first third :=
  ⟨after.finding.trans before.finding, fun boot fenced => after.fenced boot (before.fenced boot fenced),
    fun boot held => after.held boot (before.held boot held)⟩

variable (publisher)

def noteFinding (thread : Thread) (action : Action) (coordinator : Coordinator storage)
    (findings : Thread → Finding) : Thread → Finding :=
  Function.update findings thread ((findings thread).noted coordinator action)

/-- Registrations of one publisher among each other. -/
def registering : Discipline (@perform storage) Thread (Thread → Finding) where
  note := noteFinding
  meets thread action world := Unraced world.1 (world.2 thread) action
  permitted thread action world :=
    (Replacing publisher world →
      Replacing publisher ((perform action world.1).2, noteFinding thread action world.1 world.2)) ∧
    ∀ other, other ≠ thread →
      Leaves publisher other world ((perform action world.1).2, noteFinding thread action world.1 world.2)
  rely := Leaves publisher
  refl := Leaves.refl
  trans := Leaves.trans
  respects different permitted := permitted.2 _ different

end Publisher

section Handling

variable {publisher : PublisherId} {thread : Thread}

theorem fenced_congr {first second : Coordinator storage} (same : first.fences = second.fences)
    (boot : BootId) : first.fenced publisher boot = second.fenced publisher boot := by
  unfold fenced
  rw [same]

theorem noteFinding_self (action : Action) (coordinator : Coordinator storage)
    (findings : Thread → Finding) :
    noteFinding thread action coordinator findings thread = (findings thread).noted coordinator action :=
  Function.update_self _ _ _

/-- An action that leaves the registry alone, and whose note does not touch the fence that is under way. -/
theorem quiet_permitted {action : Action} {world : Coordinator storage × (Thread → Finding)}
    (registered : (perform action world.1).2.registered = world.1.registered)
    (fences : (perform action world.1).2.fences = world.1.fences)
    (fencing : ((world.2 thread).noted world.1 action).fencing = (world.2 thread).fencing) :
    (registering publisher).permitted thread action world := by
  have fenced : ∀ boot, (perform action world.1).2.fenced publisher boot = world.1.fenced publisher boot :=
    fenced_congr fences
  constructor
  · intro replacing boot here there
    rw [registered] at here
    rw [fenced] at there
    obtain ⟨other, about⟩ := replacing boot here there
    refine ⟨other, ?_⟩
    by_cases same : other = thread
    · subst same
      show (noteFinding other action world.1 world.2 other).fencing = some boot
      rw [noteFinding_self, fencing]
      exact about
    · show (noteFinding thread action world.1 world.2 other).fencing = some boot
      unfold noteFinding
      rw [Function.update_of_ne same]
      exact about
  · intro other different
    refine ⟨Function.update_of_ne different _ _, ?_, ?_⟩
    · intro boot before
      rw [fenced]
      exact before
    · intro boot held
      unfold Held
      rw [registered, fenced]
      exact held

/-- The rule for an action that only reads, or that only the engine sees. -/
theorem behaves_quiet {action : Action} {next : Answer action → Handler Response}
    {post : Response → Coordinator storage × (Thread → Finding) → Prop}
    {world : Coordinator storage × (Thread → Finding)}
    (registered : ∀ state : Coordinator storage, (perform action state).2.registered = state.registered)
    (fences : ∀ state : Coordinator storage, (perform action state).2.fences = state.fences)
    (unnoted : ∀ (finding : Finding) (state : Coordinator storage), finding.noted state action = finding)
    (rest : ∀ answer later, Leaves publisher thread world later →
      (registering publisher).Behaves thread post (next answer) later) :
    (registering publisher).Behaves thread post (act action >>= next) world := by
  apply Discipline.Behaves.act
  intro later left _
  refine ⟨quiet_permitted (registered _) (fences _) (by rw [unnoted]), rest _ _ (left.trans ?_)⟩
  refine ⟨?_, ?_, ?_⟩
  · show noteFinding thread action later.1 later.2 thread = later.2 thread
    rw [noteFinding_self, unnoted]
  · intro boot before
    show (perform action later.1).2.fenced publisher boot = true
    rw [fenced_congr (fences _)]
    exact before
  · intro boot held
    show Held publisher (perform action later.1).2 boot
    unfold Held
    rw [registered, fenced_congr (fences _)]
    exact held

/-- How a registration ends: it has no fence under way, and a boot that is accepted is registered or fenced.
-/
def Concluded (publisher : PublisherId) (thread : Thread) (boot : BootId) (response : Response)
    (world : Coordinator storage × (Thread → Finding)) : Prop :=
  (world.2 thread).fencing = none ∧
    ∀ reply, response = .registerPublisher reply → reply.accepted = true → Held publisher world.1 boot

theorem rejected_behaves {boot : BootId} {reply : RegisterPublisherResponse}
    {world : Coordinator storage × (Thread → Finding)} (idle : (world.2 thread).fencing = none)
    (rejected : reply.accepted = false) :
    (registering publisher).Behaves thread (Concluded publisher thread boot)
      (pure (.registerPublisher reply)) world := by
  refine Discipline.Behaves.pure fun later left => ⟨?_, ?_⟩
  · rw [left.finding]
    exact idle
  · intro other same accepted
    cases same
    rw [rejected] at accepted
    cases accepted

/-- The last section replaces what the look-up found: nothing, the boot itself, or a boot that is fenced. -/
theorem completeRegistration_behaves {request : RegisterPublisherRequest}
    (same : request.publisher = publisher)
    (reply : RegisterPublisherResponse) {world : Coordinator storage × (Thread → Finding)}
    (found : ∀ boot, (world.2 thread).seen = some boot →
      boot = request.boot ∧ (world.2 thread).fencing = none ∨ boot ≠ request.boot ∧
        world.1.fenced publisher boot = true)
    (missing : (world.2 thread).seen = none → (world.2 thread).fencing = none) :
    (registering publisher).Behaves thread (Concluded publisher thread request.boot)
      (completeRegistration request reply) world := by
  subst same
  apply Discipline.Behaves.act
  rintro later left ⟨current, free⟩
  rw [left.finding] at current free
  have registered : ∀ boot, ({ later.1 with
      registered := later.1.registered.insert request.publisher request.boot } :
        Coordinator storage).registered.find?
        request.publisher = some boot ↔ request.boot = boot := by
    intro boot
    show (later.1.registered.insert request.publisher request.boot).find? request.publisher = some boot ↔ _
    rw [OrdMap.find?_insert_self, Option.some.injEq]
  refine ⟨⟨?_, ?_⟩, Discipline.Behaves.pure ?_⟩
  · -- A boot that is fenced is only registered again where it is registered and about to be replaced.
    intro replacing boot here there
    obtain rfl := (registered boot).1 here
    have again : (world.2 thread).seen = some request.boot := by
      by_contra other
      rw [show later.1.fenced request.publisher request.boot = true from there] at free
      cases free other
    obtain ⟨other, about⟩ := replacing request.boot (current.trans again) there
    refine ⟨other, ?_⟩
    have different : other ≠ thread := by
      rintro rfl
      rw [left.finding] at about
      rcases found _ again with ⟨-, idle⟩ | ⟨differs, -⟩
      · rw [idle] at about
        cases about
      · exact differs rfl
    show (noteFinding thread _ later.1 later.2 other).fencing = some request.boot
    unfold noteFinding
    rw [Function.update_of_ne different]
    exact about
  · intro other different
    refine ⟨Function.update_of_ne different _ _, fun _ fenced => fenced, ?_⟩
    rintro boot (here | fenced)
    · rw [current] at here
      rcases found boot here with ⟨rfl, -⟩ | ⟨-, fenced⟩
      · exact Or.inl ((registered _).2 rfl)
      · exact Or.inr (left.fenced boot fenced)
    · exact Or.inr fenced
  · intro last moved
    refine ⟨?_, fun _ _ _ => moved.held _ (Or.inl ((registered _).2 rfl))⟩
    rw [moved.finding]
    show (noteFinding thread (.register request.publisher request.boot) later.1 later.2
      thread).fencing = none
    rw [noteFinding_self]
    rfl

/-- The boot that was looked up is fenced, and then replaced. -/
theorem fenceReplaced_behaves {request : RegisterPublisherRequest} (same : request.publisher = publisher)
    {reply : RegisterPublisherResponse} {replaced : BootId}
    (differs : replaced ≠ request.boot) {world : Coordinator storage × (Thread → Finding)}
    (seen : (world.2 thread).seen = some replaced) (idle : (world.2 thread).fencing = none) :
    (registering publisher).Behaves thread (Concluded publisher thread request.boot)
      (fenceReplaced request reply replaced) world := by
  refine behaves_quiet (fun _ => rfl) (fun _ => rfl) (fun _ _ => rfl) fun incarnation second left => ?_
  refine behaves_quiet (fun _ => rfl) (fun _ => rfl) (fun _ _ => rfl) fun epoch third after => ?_
  refine behaves_quiet (fun _ => rfl) (fun _ => rfl) (fun _ _ => rfl) fun persisted fourth last => ?_
  have finding : fourth.2 thread = world.2 thread :=
    last.finding.trans (after.finding.trans left.finding)
  cases persisted with
  | error reason =>
      refine rejected_behaves ?_ rfl
      rw [finding]
      exact idle
  | ok =>
      apply Discipline.Behaves.act
      intro later moved _
      have here : later.2 thread = world.2 thread := moved.finding.trans finding
      let fence : FenceRecord :=
        { publisher := request.publisher
          boot := replaced
          incarnation := incarnation
          reason := text "replaced by a newer publisher boot incarnation"
          tick := epoch }
      have fenced : ∀ boot,
        ({ later.1 with fences := later.1.fences ++ [fence] } : Coordinator storage).fenced
          publisher boot = true ↔ later.1.fenced publisher boot = true ∨ boot = replaced := by
        intro boot
        subst same
        unfold Coordinator.fenced
        rw [List.any_append, Bool.or_eq_true, List.any_cons, List.any_nil, Bool.or_false]
        show _ ∨ (request.publisher == request.publisher && replaced == boot) = true ↔ _
        rw [beq_self_eq_true, Bool.true_and, beq_iff_eq, eq_comm (a := boot)]
      have self : noteFinding thread (.addFence fence) later.1 later.2 thread =
          { world.2 thread with fencing := some replaced } := by
        rw [noteFinding_self, here]
        rfl
      refine ⟨⟨?_, ?_⟩, ?_⟩
      · intro replacing boot registered there
        rcases (fenced boot).1 there with before | rfl
        · obtain ⟨other, about⟩ := replacing boot registered before
          have different : other ≠ thread := by
            rintro rfl
            rw [here, idle] at about
            cases about
          refine ⟨other, ?_⟩
          show (noteFinding thread _ later.1 later.2 other).fencing = some boot
          unfold noteFinding
          rw [Function.update_of_ne different]
          exact about
        · refine ⟨thread, ?_⟩
          show (noteFinding thread (.addFence fence) later.1 later.2 thread).fencing = some boot
          rw [self]
      · intro other different
        refine ⟨Function.update_of_ne different _ _, fun boot before => (fenced boot).2 (Or.inl before), ?_⟩
        rintro boot (registered | before)
        · exact Or.inl registered
        · exact Or.inr ((fenced boot).2 (Or.inl before))
      · refine completeRegistration_behaves same reply ?_ ?_
        · intro boot found
          right
          change (noteFinding thread (.addFence fence) later.1 later.2 thread).seen = some boot at found
          rw [self] at found
          obtain rfl : replaced = boot := Option.some.inj (seen.symm.trans found)
          exact ⟨differs, (fenced replaced).2 (Or.inr rfl)⟩
        · intro missing
          change (noteFinding thread (.addFence fence) later.1 later.2 thread).seen = none at missing
          rw [self] at missing
          rw [show (world.2 thread).seen = none from missing] at seen
          cases seen

theorem handleRegisterPublisher_behaves {request : RegisterPublisherRequest}
    (same : request.publisher = publisher) {world : Coordinator storage × (Thread → Finding)}
    (idle : (world.2 thread).fencing = none) :
    (registering publisher).Behaves thread (Concluded publisher thread request.boot)
      (handleRegisterPublisher request) world := by
  refine behaves_quiet (fun _ => rfl) (fun _ => rfl) (fun _ _ => rfl) fun epoch second left => ?_
  refine behaves_quiet (fun _ => rfl) (fun _ => rfl) (fun _ _ => rfl) fun incarnation third after => ?_
  have idle : (third.2 thread).fencing = none := by
    rw [after.finding, left.finding]
    exact idle
  split
  · exact rejected_behaves idle rfl
  refine behaves_quiet (fun _ => rfl) (fun _ => rfl) (fun _ _ => rfl) fun fenced fourth checked => ?_
  have idle : (fourth.2 thread).fencing = none := by
    rw [checked.finding]
    exact idle
  dsimp only
  split
  · exact rejected_behaves idle rfl
  apply Discipline.Behaves.act
  intro later left _
  have idle : (later.2 thread).fencing = none := by
    rw [left.finding]
    exact idle
  refine ⟨quiet_permitted rfl rfl rfl, ?_⟩
  have noted : noteFinding thread (.findRegistered request.publisher) later.1 later.2 thread =
      { later.2 thread with seen := later.1.registered.find? request.publisher } := noteFinding_self _ _ _
  have answered : (perform (.findRegistered request.publisher) later.1).1 =
      later.1.registered.find? request.publisher := rfl
  rw [answered]
  cases found : later.1.registered.find? request.publisher with
  | none =>
      rw [found] at noted
      refine completeRegistration_behaves same _ ?_ ?_
      · intro boot seen
        change (noteFinding thread (.findRegistered request.publisher) later.1 later.2 thread).seen =
          some boot at seen
        rw [noted] at seen
        cases seen
      · intro _
        change (noteFinding thread (.findRegistered request.publisher) later.1 later.2
          thread).fencing = none
        rw [noted]
        exact idle
  | some boot =>
      rw [found] at noted
      dsimp only
      split
      · rename_i own
        refine completeRegistration_behaves same _ ?_ ?_
        · intro other seen
          change (noteFinding thread (.findRegistered request.publisher) later.1 later.2
            thread).seen = some other
            at seen
          rw [noted] at seen
          refine Or.inl ⟨(Option.some.inj seen).symm.trans own, ?_⟩
          change (noteFinding thread (.findRegistered request.publisher) later.1 later.2
            thread).fencing = none
          rw [noted]
          exact idle
        · intro missing
          change (noteFinding thread (.findRegistered request.publisher) later.1 later.2 thread).seen = none
            at missing
          rw [noted] at missing
          cases missing
      · rename_i other
        refine fenceReplaced_behaves same other ?_ ?_
        · change (noteFinding thread (.findRegistered request.publisher) later.1 later.2
            thread).seen = some boot
          rw [noted]
        · change (noteFinding thread (.findRegistered request.publisher) later.1 later.2
            thread).fencing = none
          rw [noted]
          exact idle

end Handling

/-! The registrations together. -/

/-- One handler for each of the requests, and nothing found out yet. -/
def registrations (coordinator : Coordinator storage) (requests : Thread → RegisterPublisherRequest) :
    Pool (Coordinator storage) Action Answer Response Thread × (Thread → Finding) :=
  (⟨coordinator, fun thread => handleRegisterPublisher (requests thread)⟩, fun _ => {})

/-- The boots that were accepted are fenced, but for the registered one, and that one is not. -/
structure Agree (publisher : PublisherId) (requests : Thread → RegisterPublisherRequest)
    (pool : Pool (Coordinator storage) Action Answer Response Thread) : Prop where
  replaced : ∀ thread reply, pool.threads thread = .done (.registerPublisher reply) →
    reply.accepted = true →
    pool.state.registered.find? publisher ≠ some (requests thread).boot →
      pool.state.fenced publisher (requests thread).boot = true
  current : ∀ boot, pool.state.registered.find? publisher = some boot →
    pool.state.fenced publisher boot = false

/-- Every handler is done. -/
def Finished (pool : Pool (Coordinator storage) Action Answer Response Thread) : Prop :=
  ∀ thread, ∃ response, pool.threads thread = .done response

/-- Registrations agree in every order of their sections in which each still finds the registry as it found
it when it decided. -/
theorem registrations_agree {publisher : PublisherId} {requests : Thread → RegisterPublisherRequest}
    (same : ∀ thread, (requests thread).publisher = publisher) {coordinator : Coordinator storage}
    (free : ∀ boot, coordinator.registered.find? publisher = some boot →
      coordinator.fenced publisher boot = false) {schedule : List Thread}
    (unraced : Runs.Along (registering publisher).step
      (Discipline.Meeting fun thread action world => Unraced world.1 (world.2 thread) action)
      (registrations coordinator requests) schedule)
    (finished : Finished (Pool.run perform (registrations coordinator requests).1 schedule)) :
    Agree publisher requests (Pool.run perform (registrations coordinator requests).1 schedule) := by
  have start : Discipline.Behaving (registering publisher)
      (fun thread => Concluded publisher thread (requests thread).boot)
        (registrations coordinator requests) :=
    fun thread => handleRegisterPublisher_behaves (same thread) rfl
  obtain ⟨permitted, behaving⟩ := start.run unraced
  have replacing : Replacing publisher
      (((registering publisher).run (registrations coordinator requests) schedule).1.state,
        ((registering publisher).run (registrations coordinator requests) schedule).2) := by
    refine Runs.invariant (fun noted : Pool (Coordinator storage) Action Answer Response Thread × _ =>
      Replacing publisher (noted.1.state, noted.2)) ?_ ?_ permitted
    · intro noted turn before met
      cases left : noted.1.threads turn with
      | done value =>
          rw [Discipline.step_done left]
          exact before
      | call action next =>
          rw [Discipline.step_call left]
          exact (met action next left).1 before
    · intro boot here there
      have unfenced := free boot here
      rw [show coordinator.fenced publisher boot = true from there] at unfenced
      cases unfenced
  have reached : ((registering publisher).run (registrations coordinator requests) schedule).1 =
      Pool.run perform (registrations coordinator requests).1 schedule := Discipline.run_fst _ _
  rw [← reached] at finished ⊢
  generalize (registering publisher).run (registrations coordinator requests) schedule = last at *
  have concluded : ∀ thread response, last.1.threads thread = .done response →
      Concluded publisher thread (requests thread).boot response (last.1.state, last.2) := by
    intro thread response done
    have behaves := behaving thread
    rw [done] at behaves
    exact behaves _ (Leaves.refl thread _)
  constructor
  · intro thread reply done accepted other
    exact ((concluded thread _ done).2 reply rfl accepted).resolve_left other
  · intro boot here
    by_contra fenced
    obtain ⟨thread, about⟩ := replacing boot here (by simpa using fenced)
    obtain ⟨response, done⟩ := finished thread
    rw [(concluded thread response done).1] at about
    cases about

/-! Two boots of one publisher. -/

/-- A coordinator without a data directory, before anything was registered. -/
def unregistered : Coordinator durable :=
  { engine := Engine.new {}
    incarnation := Gen.first
    boot := plannerBoot
    epoch := 1 }

/-- The planner registers, and so does the planner that was started again. -/
def restarted : Bool → RegisterPublisherRequest
  | false => plannerRegistration
  | true => { plannerRegistration with boot := ⟨Vector.replicate 16 2⟩ }

theorem registrations_agree_restarted : Agree (named "planner") restarted
    (Pool.run perform (registrations unregistered restarted).1
      (List.replicate 5 false ++ List.replicate 9 true)) := by
  refine registrations_agree ?_ ?_ ?_ ?_
  · intro thread
    cases thread <;> rfl
  · intro boot here
    cases here
  · refine ⟨.of_call rfl trivial, .of_call rfl trivial, .of_call rfl trivial, .of_call rfl trivial,
      .of_call rfl ⟨rfl, fun _ => rfl⟩, .of_call rfl trivial, .of_call rfl trivial, .of_call rfl trivial,
      .of_call rfl trivial, .of_call rfl trivial, .of_call rfl trivial, .of_call rfl trivial,
      .of_call rfl trivial, .of_call rfl ⟨rfl, fun _ => rfl⟩, trivial⟩
  · intro thread
    cases thread
    · exact ⟨_, rfl⟩
    · exact ⟨_, rfl⟩

/-- Both look up before either registers: the boot that registers first is not fenced. -/
theorem racing_registrations_disagree :
    start (none : Option durable.Repository) plannerBoot = .ok unregistered ∧
      (∀ thread, (restarted thread).publisher = named "planner") ∧
      Function.Injective (fun thread => (restarted thread).boot) ∧
      ∃ schedule, Finished (Pool.run perform (registrations unregistered restarted).1 schedule) ∧
        ¬ Agree (named "planner") restarted
          (Pool.run perform (registrations unregistered restarted).1 schedule) := by
  refine ⟨rfl, ?_, ?_, List.replicate 4 false ++ List.replicate 4 true ++ [false, true], ?_, ?_⟩
  · intro thread
    cases thread <;> rfl
  · intro first second same
    cases first <;> cases second <;> first | rfl | exact absurd same (by decide)
  · intro thread
    cases thread
    · exact ⟨_, rfl⟩
    · exact ⟨_, rfl⟩
  · intro agree
    have fenced := agree.replaced false _ rfl rfl (by decide)
    cases fenced

end Coordinator

end TrafficFabric
