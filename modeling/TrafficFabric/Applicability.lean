import TrafficFabric.KeepingUp

set_option autoImplicit false

/- What it says that a plan is current. Validation and authorization make a plan current; it stays so in two
cases in which it should not: where it is rejected, and where a plan at its end is revalidated. -/
namespace TrafficFabric

open PlanStateMachine (canTransition isLive)

namespace Engine

variable {engine : Engine durable} {operation : Operation durable}

/-- A current plan is live or committed, and bound to the live authority. -/
structure Truthful (engine : Engine durable) : Prop where
  current : ∀ id plan, engine.plans.find? id = some plan → plan.applicability = .current → plan.Advancing
  lit : ∀ id plan, engine.plans.find? id = some plan → plan.applicability = .current →
    engine.liveValid = true

/-- No append of a submission fails. No plan is rejected with its applicability left as it is: the solver
finds a plan, the policy takes a degraded one, the allocation verifies. Only plans that can still advance
and committed ones are revalidated while their authority is the live one. -/
def Heeds (engine : Engine durable) : Operation durable → Prop
  | .submitSnapshot raw => Unfailing engine (.submitSnapshot raw)
  | .solve ref => ∀ plan outcome, engine.plans.find? ref.id = some plan → plan.generation = ref.generation →
      Solves engine plan →
      TrafficFabric.solve engine.liveSnapshot (engine.solveOptions plan.id) = .ok outcome →
      outcome.status = .feasible ∨ outcome.status = .feasibleDegraded
  | .authorize ref => ∀ plan, engine.plans.find? ref.id = some plan → plan.generation = ref.generation →
      plan.state = .degraded → engine.liveSnapshot.policy.allowDegradedCommit = true
  | .commit ref intent => ∀ plan, engine.plans.find? ref.id = some plan →
      plan.generation = ref.generation → intent.commit.valid = true ∧ intent.commitGeneration.valid = true →
      plan.state = .authorized → verifyAllocation engine.liveSnapshot plan.allocation = []
  | .revalidate ref => ∀ plan, engine.plans.find? ref.id = some plan → engine.liveValid = true →
      (engine.deltaOf plan).identical = true → plan.Advancing
  | _ => True

theorem Heeds.submission (heeds : Heeds engine operation) : SubmissionUnfailing engine operation := by
  cases operation with
  | submitSnapshot raw => exact heeds
  | _ => trivial

/-! A call with an outdated reference changes nothing. -/

section Compared

variable {storage : Storage} {engine : Engine storage} {ref : PlanRef} {plan : Plan}

theorem call_unchanged {operation : Operation storage}
    (answered : ∃ reason, engine.call operation = (.error reason, engine)) :
    (engine.call operation).2 = engine := by
  obtain ⟨reason, answered⟩ := answered
  rw [answered]

variable (found : engine.plans.find? ref.id = some plan)

include found

theorem validate_outdated (outdated : plan.generation ≠ ref.generation) :
    ∃ reason, engine.call (.validate ref) = (.error reason, engine) := by
  show ∃ reason, engine.validate ref = (.error reason, engine)
  unfold validate
  simp only [found]
  rw [if_pos outdated]
  exact ⟨_, rfl⟩

theorem solve_outdated (outdated : plan.generation ≠ ref.generation) :
    ∃ reason, engine.call (.solve ref) = (.error reason, engine) := by
  show ∃ reason, (statusOf (engine.solve ref).1, (engine.solve ref).2) = (.error reason, engine)
  unfold solve
  simp only [found]
  rw [if_pos outdated]
  exact ⟨_, rfl⟩

theorem authorize_outdated (outdated : plan.generation ≠ ref.generation) :
    ∃ reason, engine.call (.authorize ref) = (.error reason, engine) := by
  show ∃ reason, (statusOf (engine.authorize ref).1, (engine.authorize ref).2) = (.error reason, engine)
  unfold authorize
  simp only [found]
  rw [if_pos outdated]
  exact ⟨_, rfl⟩

theorem commit_outdated (outdated : plan.generation ≠ ref.generation) (intent : CommitIntent) :
    ∃ reason, engine.call (.commit ref intent) = (.error reason, engine) := by
  show ∃ reason, (statusOf (engine.commit ref intent).1, (engine.commit ref intent).2) =
    (.error reason, engine)
  unfold commit
  simp only [found]
  rw [if_pos outdated]
  exact ⟨_, rfl⟩

theorem commit_unnamed {intent : CommitIntent} (generation : plan.generation = ref.generation)
    (missing : ¬ (intent.commit.valid = true ∧ intent.commitGeneration.valid = true)) :
    ∃ reason, engine.call (.commit ref intent) = (.error reason, engine) := by
  show ∃ reason, (statusOf (engine.commit ref intent).1, (engine.commit ref intent).2) =
    (.error reason, engine)
  have unnamed : (!intent.commit.valid || !intent.commitGeneration.valid) = true := by
    cases named : intent.commit.valid
    · rfl
    · cases numbered : intent.commitGeneration.valid
      · rfl
      · exact absurd ⟨named, numbered⟩ missing
  unfold commit
  simp only [found]
  rw [if_neg (not_not.2 generation), if_pos unnamed]
  exact ⟨_, rfl⟩

end Compared

/-! One call. -/

theorem proposal_advancing (engine : Engine durable) (plan : Plan) {outcome : SolveOutcome}
    (found : outcome.status = .feasible ∨ outcome.status = .feasibleDegraded) :
    (engine.proposal plan outcome).Advancing := by
  have state : (engine.proposal plan outcome).state =
      (solvedPlan { plan with state := .solving } outcome engine.tick).state := rfl
  unfold Plan.Advancing
  rw [state]
  unfold solvedPlan
  dsimp only
  rcases found with feasible | degraded
  · rw [feasible]
    exact Or.inl rfl
  · rw [degraded]
    exact Or.inl rfl

/-- A change that heeds the conditions makes no plan current that is not to be. -/
theorem Change.advancing {plan later : Plan} {incumbent : PlanRef} {id : PlanId}
    (heeds : Heeds engine operation)
    (keeps : KeepsUp engine) (target : operation.target = some id)
    (found : engine.plans.find? id = some plan)
    (changed : (engine.call operation).2 ≠ engine) (change : Change engine plan operation incumbent later)
    (current : later.applicability = .current) : later.Advancing := by
  cases change with
  | validated | authorized => exact Or.inl rfl
  | committed => exact Or.inr rfl
  | outdated | unsolvable | marked | retired => cases current
  | contradicted advancing live differs =>
      rw [keeps.current live id plan found (Or.inl advancing)] at differs
      cases differs
  | solved solves answered =>
      cases target
      have generation := not_not.1 fun outdated => changed (call_unchanged (solve_outdated found outdated))
      exact proposal_advancing engine plan (heeds plan _ found generation solves answered)
  | forbidden degraded forbids =>
      cases target
      have generation := not_not.1 fun outdated =>
        changed (call_unchanged (authorize_outdated found outdated))
      rw [heeds plan found generation degraded] at forbids
      cases forbids
  | unverified authorized violated =>
      cases target
      have generation := not_not.1 fun outdated =>
        changed (call_unchanged (commit_outdated found outdated _))
      have named := not_not.1 fun missing =>
        changed (call_unchanged (commit_unnamed found generation missing))
      exact absurd (heeds plan found generation named authorized) violated

theorem PlanStep.truthful {plan later : Plan} {id : PlanId} (heeds : Heeds engine operation)
    (keeps : KeepsUp engine) (truthful : Truthful engine) (found : engine.plans.find? id = some plan)
    (changed : (engine.call operation).2 ≠ engine) (step : PlanStep engine operation id plan later)
    (current : later.applicability = .current) : later.Advancing := by
  cases step with
  | kept => exact truthful.current id plan found current
  | noted target noted =>
      cases noted with
      | current live identical =>
          cases target
          exact heeds plan found live identical
      | behind | unfounded => cases current
  | recorded target change => exact change.advancing heeds keeps target found changed current
  | displacing => exact Or.inr rfl
  | displaced | superseded | demoted => cases current
  | superseding committed => exact Or.inr committed

theorem restored_applicability (recorded : Plan) : (restored recorded).applicability ≠ .current := by
  unfold restored
  split <;> nofun

/-- What a call makes current was current before, or the live authority was there to compare it with. -/
theorem PlanStep.lit {plan later : Plan} {id : PlanId} (truthful : Truthful engine)
    (found : engine.plans.find? id = some plan) (step : PlanStep engine operation id plan later)
    (current : later.applicability = .current) : engine.liveValid = true := by
  have before : plan.applicability = .current → engine.liveValid = true := truthful.lit id plan found
  cases step with
  | kept | superseding => exact before current
  | noted _ noted =>
      cases noted with
      | current live => exact live
      | behind | unfounded => cases current
  | recorded _ change =>
      cases change with
      | validated _ live => exact live
      | contradicted _ live => exact live
      | solved solves => exact solves.live
      | authorized authorizes => exact authorizes.live
      | committed commits => exact commits.live
      | forbidden | unverified => exact before current
      | outdated | unsolvable | marked | retired => cases current
  | displacing commits => exact commits.live
  | displaced | superseded | demoted => cases current

theorem call_truthful (steady : engine.Steady) (keeps : KeepsUp engine) (truthful : Truthful engine)
    (heeds : Heeds engine operation) : Truthful (engine.call operation).2 := by
  by_cases changed : (engine.call operation).2 = engine
  · rw [changed]
    exact truthful
  have fresh : ∀ id later, PlanNew engine operation id later → later.applicability ≠ .current := by
    intro id later new
    cases new with
    | declared => nofun
    | restored => exact restored_applicability _
  constructor
  · intro id later found current
    rcases call_plan steady.sound.keyed found with ⟨plan, before, step⟩ | ⟨-, new⟩
    · exact step.truthful heeds keeps truthful before changed current
    · exact absurd current (fresh id later new)
  · intro id later found current
    rcases call_plan steady.sound.keyed found with ⟨plan, before, step⟩ | ⟨-, new⟩
    · have lit := step.lit truthful before current
      cases call_live engine operation with
      | same _ _ liveValid => rw [liveValid, lit]
      | submitted _ _ _ liveValid => exact liveValid
      | recovered empty =>
          rw [find?_of_empty empty id] at before
          cases before
    · exact absurd current (fresh id later new)

/-! A plan that recovery restored. -/

/-- After the plan was restored, a snapshot with its authority was submitted and it was revalidated. -/
def Revalidated (plan : Plan) (id : PlanId) (between : List (Operation durable)) : Prop :=
  ∃ first raw second ref rest,
    between = first ++ .submitSnapshot raw :: second ++ .revalidate ref :: rest ∧ ref.id = id ∧
      (compareAuthority plan.authority (authorityOf (canonicalize raw))).identical = true

theorem Revalidated.later {plan : Plan} {id : PlanId} {between : List (Operation durable)}
    (revalidated : Revalidated plan id between) (operation : Operation durable) :
    Revalidated plan id (between ++ [operation]) := by
  obtain ⟨first, raw, second, ref, rest, rfl, named, identical⟩ := revalidated
  exact ⟨first, raw, second, ref, rest ++ [operation], by simp, named, identical⟩

/-- What is known of a restored plan, and of what it is compared with, after some calls. -/
structure Awaits (restored : Plan) (id : PlanId) (past : List (Operation durable))
    (engine : Engine durable) :
    Prop where
  steady : engine.Steady
  plan : ∃ plan, engine.plans.find? id = some plan ∧ plan.authority = restored.authority ∧
    isLive plan.state = false ∧ (plan.applicability = .current → Revalidated restored id past)
  live : engine.liveValid = true → ∃ first raw second, past = first ++ .submitSnapshot raw :: second ∧
    engine.live = authorityOf (canonicalize raw)

/-- A plan that is not live becomes current in a revalidation only. -/
theorem PlanStep.revalidated {restored plan later : Plan} {id : PlanId} {past : List (Operation durable)}
    (step : PlanStep engine operation id plan later) (awaits : Awaits restored id past engine)
    (same : plan.authority = restored.authority) (idle : isLive plan.state = false)
    (before : plan.applicability = .current → Revalidated restored id past)
    (current : later.applicability = .current) : Revalidated restored id (past ++ [operation]) := by
  have waits : ∀ state, isLive state = true → plan.state ≠ state := by
    rintro state live rfl
    rw [idle] at live
    cases live
  cases step with
  | kept | superseding => exact (before current).later _
  | noted target noted =>
      cases noted with
      | current live identical =>
          obtain ⟨first, raw, second, rfl, bound⟩ := awaits.live live
          unfold deltaOf at identical
          rw [same, bound] at identical
          exact ⟨first, raw, second, _, [], rfl, Option.some.inj target, identical⟩
      | behind | unfounded => cases current
  | recorded _ change =>
      cases change with
      | validated declared => exact absurd declared (waits _ rfl)
      | contradicted live =>
          rw [idle] at live
          cases live
      | solved solves => exact absurd solves.validated (waits _ rfl)
      | forbidden degraded => exact absurd degraded (waits _ rfl)
      | authorized authorizes =>
          rcases authorizes.proposed with proposed | degraded
          · exact absurd proposed (waits _ rfl)
          · exact absurd degraded (waits _ rfl)
      | unverified authorized => exact absurd authorized (waits _ rfl)
      | committed commits => exact absurd commits.authorized (waits _ rfl)
      | outdated | unsolvable | marked | retired => cases current
  | displacing commits => exact absurd commits.authorized (waits _ rfl)
  | displaced | superseded | demoted => cases current

theorem call_awaits {restored : Plan} {id : PlanId} {past : List (Operation durable)}
    (awaits : Awaits restored id past engine) (operation : Operation durable) :
    Awaits restored id (past ++ [operation]) (engine.call operation).2 := by
  obtain ⟨plan, found, same, idle, before⟩ := awaits.plan
  have keyed := awaits.steady.sound.keyed
  have advances := apply_advances keyed operation
  have steady := apply_steady awaits.steady operation
  rw [apply_eq_call] at advances steady
  obtain ⟨later, present, -, -⟩ := advances.kept id plan found
  have step : PlanStep engine operation id plan later := by
    rcases call_plan keyed present with ⟨other, there, step⟩ | ⟨absent, -⟩
    · rw [found, Option.some.injEq] at there
      rw [there]
      exact step
    · rw [found] at absent
      cases absent
  refine ⟨steady, ⟨later, present, step.authority.trans same, ?_, ?_⟩, ?_⟩
  · by_contra live
    rw [step.live_of_live (by simpa using live)] at idle
    cases idle
  · exact step.revalidated awaits same idle before
  · intro valid
    cases call_live engine operation with
    | same _ live liveValid =>
        rw [liveValid] at valid
        obtain ⟨first, raw, second, rfl, bound⟩ := awaits.live valid
        exact ⟨first, raw, second ++ [operation], by simp, live.trans bound⟩
    | submitted _ _ live => exact ⟨past, _, [], rfl, live⟩
    | recovered empty =>
        rw [find?_of_empty empty id] at found
        cases found

/-- What recovery leaves behind: no snapshot is live, and no plan is. -/
theorem recover_awaits (steady : engine.Steady)
    (recovered : (engine.call .recoverFromRepository).1 = .ok ())
    {id : PlanId} {plan : Plan}
    (found : (engine.call .recoverFromRepository).2.plans.find? id = some plan) :
    Awaits plan id [] (engine.call .recoverFromRepository).2 := by
  have later := apply_steady steady .recoverFromRepository
  rw [apply_eq_call] at later
  generalize answered : engine.call .recoverFromRepository = result at recovered found later
  have effect := call_effect engine .recoverFromRepository
  rw [answered] at effect
  cases effect with
  | refused => cases recovered
  | noted target | recorded target => cases target
  | recovered attached empty =>
      refine ⟨later, ⟨plan, found, rfl, ?_, ?_⟩, nofun⟩
      all_goals
        change ((collapse durable _).1.mapValues restored).find? id = some plan at found
        rw [OrdMap.find?_mapValues, Option.map_eq_some_iff] at found
        obtain ⟨recorded, -, rfl⟩ := found
      · exact restored_idle recorded
      · exact fun current => absurd current (restored_applicability recorded)

theorem restored_revalidated (steady : engine.Steady)
    (recovered : (engine.call .recoverFromRepository).1 = .ok ()) {id : PlanId} {plan : Plan}
    (found : (engine.call .recoverFromRepository).2.plans.find? id = some plan)
    (between : List (Operation durable)) {later : Plan}
    (present : ((engine.call .recoverFromRepository).2.run between).plans.find? id = some later)
    (current : later.applicability = .current) : Revalidated plan id between := by
  have awaits : Awaits plan id between ((engine.call .recoverFromRepository).2.run between) := by
    apply Runs.history (Awaits plan id) (recover_awaits steady recovered found) _
      (Runs.along_true _ between)
    intro past operation awaits _
    rw [apply_eq_call]
    exact call_awaits awaits operation
  obtain ⟨other, there, -, -, revalidated⟩ := awaits.plan
  rw [present, Option.some.injEq] at there
  exact revalidated (there ▸ current)

/-! Runs. -/

/-- After the run, what is said to be current can be relied on. -/
structure ApplicabilityTold (config : EngineConfig) (history : List (Operation durable)) : Prop where
  current : ∀ id plan, ((new config).run history).plans.find? id = some plan →
    plan.applicability = .current → plan.Advancing ∧ ((new config).run history).liveValid = true ∧
      (((new config).run history).deltaOf plan).identical = true
  ended : ∀ id plan, ((new config).run history).plans.find? id = some plan →
    plan.state = .superseded ∨ plan.state = .retired ∨ plan.state = .rejected ∨ plan.state = .stale →
      plan.applicability ≠ .current
  restored : ∀ before between, history = before ++ .recoverFromRepository :: between →
    (((new config).run before).call .recoverFromRepository).1 = .ok () → ∀ id plan later,
      (((new config).run before).call .recoverFromRepository).2.plans.find? id = some plan →
      ((new config).run history).plans.find? id = some later → later.applicability = .current →
        Revalidated plan id between

theorem run_truthful (config : EngineConfig) (history : List (Operation durable))
    (heeds : Runs.Along apply Heeds (new config) history) :
    KeepsUp ((new config).run history) ∧ Truthful ((new config).run history) := by
  have start : (new config : Engine durable).Steady ∧ KeepsUp (new config : Engine durable) ∧
      Truthful (new config : Engine durable) :=
    ⟨new_steady config, ⟨nofun, fun _ _ _ => nofun⟩, ⟨fun _ _ => nofun, fun _ _ => nofun⟩⟩
  have holds :=
    Runs.invariant (fun engine => engine.Steady ∧ KeepsUp engine ∧ Truthful engine) ?_ start heeds
  · exact holds.2
  · rintro engine operation ⟨steady, keeps, truthful⟩ heeds
    refine ⟨apply_steady steady operation, ?_⟩
    rw [apply_eq_call]
    exact ⟨call_keepsUp steady keeps heeds.submission, call_truthful steady keeps truthful heeds⟩

/-- In every run that heeds the conditions, what is said to be current can be relied on. -/
theorem run_applicabilityTold (config : EngineConfig) (history : List (Operation durable))
    (heeds : Runs.Along apply Heeds (new config) history) : ApplicabilityTold config history := by
  obtain ⟨keeps, truthful⟩ := run_truthful config history heeds
  refine ⟨?_, ?_, ?_⟩
  · intro id plan found current
    have advancing := truthful.current id plan found current
    have live := truthful.lit id plan found current
    exact ⟨advancing, live, keeps.current live id plan found advancing⟩
  · intro id plan found ended current
    rcases truthful.current id plan found current with live | committed
    · rcases ended with state | state | state | state <;> rw [state] at live <;> cases live
    · rcases ended with state | state | state | state <;> rw [state] at committed <;> cases committed
  · rintro before between rfl recovered id plan later found present current
    refine restored_revalidated (run_steady config before) recovered found between ?_ current
    unfold run at present ⊢
    rw [List.foldl_append, List.foldl_cons, apply_eq_call] at present
    exact present

/-! Without a repository nothing is appended. -/

theorem detached_unfailing (steady : engine.Steady) (detached : engine.repository = none)
    (writing : operation.Writing) :
    Unfailing engine operation ∧ (engine.apply operation).repository = none := by
  obtain ⟨written, writes⟩ := call_writes steady.sound.keyed writing
  have after : (engine.apply operation).repository = none := by
    rw [apply_eq_call, writes.repository, detached]
    cases written <;> rfl
  exact ⟨fun _ => Clean.of_same (after.trans detached.symm), after⟩

theorem detached_along (steady : engine.Steady) (detached : engine.repository = none)
    (operations : List (Operation durable)) (writing : ∀ operation ∈ operations, operation.Writing) :
    Runs.Along apply Unfailing engine operations := by
  induction operations generalizing engine with
  | nil => trivial
  | cons operation rest ih =>
      obtain ⟨unfailing, after⟩ := detached_unfailing steady detached (writing operation List.mem_cons_self)
      exact ⟨unfailing, ih (apply_steady steady operation) after
        fun other member => writing other (List.mem_cons_of_mem operation member)⟩

/-- A plan of the link fabric is declared, without a repository. -/
def linkDeclared (id : PlanId) : List (Operation durable) :=
  linkHistory none ++ [.declare (linkRequest id none)]

theorem run_linkDeclared {id : PlanId} (valid : id.valid = true) :
    ∃ plan, ((new {}).run (linkDeclared id)).plans.find? id = some plan ∧ plan.state = .declared ∧
      plan.id = id ∧ plan.authority = authorityOf linkFabric ∧
      ((new {}).run (linkDeclared id)).liveValid = true ∧
      ((new {}).run (linkDeclared id)).live = authorityOf linkFabric ∧
      ((new {}).run (linkDeclared id)).repository = none ∧ plan.generation = Gen.first := by
  have declarable : Declarable (linkEngine (none : Option durable.Repository)) (linkRequest id none) :=
    linkRequest_first valid (accepting_none 1)
  have whole : (new {}).run (linkDeclared id) =
      ((linkEngine (none : Option durable.Repository)).declare (linkRequest id none)).2 :=
    run_linkHistory none [.declare (linkRequest id none)]
  rw [whole, declare_eq declarable, persist_write, linkEngine_eq]
  exact ⟨_, OrdMap.find?_insert_self _ _ _, rfl, rfl, rfl, rfl, rfl, rfl, rfl⟩

/-- The engine has declared its first plan, for the snapshot that is live. -/
structure DeclaredFirst (engine : Engine durable) (fabric : FabricSnapshot) (request : DeclareRequest)
    (plan : Plan) : Prop where
  found : engine.plans.find? request.planId = some plan
  declared : plan.state = .declared
  named : plan.id = request.planId
  generation : plan.generation = Gen.first
  bound : plan.authority = authorityOf fabric
  live : engine.liveValid = true
  same : engine.live = authorityOf fabric
  snapshot : engine.snapshot = some fabric
  pending : engine.pending.find? request.planId = some request.pending

theorem run_declaredFirst {fabric : FabricSnapshot} (accepted : Accepted fabric)
    (fixed : canonicalize fabric = fabric) (request : DeclareRequest) (named : request.planId.valid = true)
    (attempt : request.attempt.valid = true ∧ request.attemptGeneration.valid = true)
    (publisher : request.publisher.valid = true ∧ request.publisherBoot.valid = true) :
    ∃ plan, DeclaredFirst ((new {}).run [.submitSnapshot fabric, .declare request]) fabric
      request plan := by
  have submitted : ((new {} : Engine durable).submitSnapshot fabric).2 =
      (new {} : Engine durable).withSnapshot fabric := by
    unfold submitSnapshot
    simp only [fixed, accepted.valid]
    rfl
  have room : (new {} : Engine durable).plans.size <
    (new {} : Engine durable).config.maxRecords.toNat := by decide
  have declarable : Declarable ((new {} : Engine durable).withSnapshot fabric) request :=
    ⟨rfl, named, attempt, publisher, rfl, room, rfl, rfl⟩
  have whole : (new {}).run [.submitSnapshot fabric, .declare request] =
      (((new {} : Engine durable).withSnapshot fabric).declare request).2 := by
    rw [← submitted]
    rfl
  rw [whole, declare_eq declarable, persist_write]
  refine ⟨_, OrdMap.find?_insert_self _ _ _, rfl, rfl, rfl, rfl, rfl, rfl, rfl, ?_⟩
  show (OrdMap.empty.emplace request.planId request.pending).find? request.planId = some request.pending
  rw [OrdMap.find?_emplace, if_pos rfl]
  rfl

theorem applicabilityTold_linkDeclared :
    ApplicabilityTold {} (linkDeclared (named "plan-1") ++ [.validate ⟨named "plan-1", Gen.first⟩]) := by
  have writing : ∀ operation ∈ linkDeclared (named "plan-1") ++ [.validate ⟨named "plan-1", Gen.first⟩],
      operation.Writing := by
    intro operation member
    simp only [linkDeclared, linkHistory, List.cons_append, List.nil_append, List.mem_cons,
      List.not_mem_nil, or_false] at member
    rcases member with rfl | rfl | rfl <;> trivial
  obtain ⟨submitted, -⟩ := detached_along (new_steady {}) rfl _ writing
  exact run_applicabilityTold {} _ ⟨submitted, trivial, trivial, trivial⟩

/-- The same links in another topology. -/
def movedFabric : FabricSnapshot := { linkFabric with topologyGeneration := ⟨2⟩ }

theorem movedFabric_accepted : Accepted movedFabric :=
  accepted_of_checks movedFabric (by decide +kernel) (by decide +kernel)

theorem movedFabric_differs :
    (compareAuthority (authorityOf linkFabric) (authorityOf movedFabric)).identical = false := by
  rw [← Bool.not_eq_true, compareAuthority_identical (authorityOf_valid linkFabric_accepted)
    (authorityOf_valid movedFabric_accepted)]
  intro same
  have topology : movedFabric.topologyGeneration = linkFabric.topologyGeneration :=
    congrArg AuthorityVector.topologyGeneration same
  cases topology

/-- A declared plan is marked stale and revalidated. Then the fabric moves on. -/
def revalidatedStale (id : PlanId) : List (Operation durable) :=
  [.markStale ⟨id, Gen.first⟩, .revalidate ⟨id, Gen.first⟩, .submitSnapshot movedFabric]

/-- The stale plan that was revalidated stays current, whatever it is bound to. -/
theorem run_revalidatedStale {plan : Plan} {id : PlanId} (steady : engine.Steady)
    (found : engine.plans.find? id = some plan) (declared : plan.state = .declared) (named : plan.id = id)
    (bound : plan.authority = authorityOf linkFabric) (live : engine.liveValid = true)
    (same : engine.live = authorityOf linkFabric) :
    ∃ later, (engine.run (revalidatedStale id)).plans.find? id = some later ∧
      later.applicability = .current ∧ later.state = .stale ∧
      ((engine.run (revalidatedStale id)).deltaOf later).identical = false := by
  let stale : Plan := { plan with state := .stale, applicability := .stale }
  let revalidated : Plan := { stale with applicability := .current }
  have marked : (engine.call (.markStale ⟨id, Gen.first⟩)).2 =
      (engine.countStale.record stale (.ok () : Status)).2 := by
    rw [markStale_eq found (by rw [declared]; rfl)]
  have replaces : Replaces engine (engine.call (.markStale ⟨id, Gen.first⟩)).2 id stale [stale] := by
    rw [marked]
    have replaced : Replaces engine (engine.countStale.record stale (.ok () : Status)).2
        (⟨id, Gen.first⟩ : PlanRef).id stale [stale] :=
      record_replaces ⟨rfl, rfl, rfl, rfl, rfl, rfl, rfl⟩ rfl named
    exact replaced
  let second := (engine.call (.markStale ⟨id, Gen.first⟩)).2
  have identical : (second.deltaOf stale).identical = true := by
    change (compareAuthority plan.authority second.live).identical = true
    rw [bound, replaces.same.live, same, compareAuthority_identical (authorityOf_valid linkFabric_accepted)
      (authorityOf_valid linkFabric_accepted)]
  have revived : second.call (.revalidate ⟨id, Gen.first⟩) = (.ok (), second.store revalidated) := by
    change (statusOf (second.revalidate ⟨id, Gen.first⟩).1, (second.revalidate ⟨id, Gen.first⟩).2) = _
    rw [revalidate_eq replaces.found (replaces.same.liveValid.trans live) identical]
    rfl
  let third := second.store revalidated
  have current : third.plans.find? id = some revalidated := by
    change (second.plans.insert plan.id revalidated).find? id = some revalidated
    rw [named, OrdMap.find?_insert_self]
  have whole : engine.run (revalidatedStale id) = (third.call (.submitSnapshot movedFabric)).2 := by
    unfold revalidatedStale run
    rw [List.foldl_cons, List.foldl_cons, List.foldl_cons, List.foldl_nil, apply_eq_call, apply_eq_call,
      apply_eq_call]
    change ((second.call (.revalidate ⟨id, Gen.first⟩)).2.call (.submitSnapshot movedFabric)).2 = _
    rw [revived]
  have keyed : Keyed third.plans := by
    have steps := apply_steady (apply_steady steady (.markStale ⟨id, Gen.first⟩))
      (.revalidate ⟨id, Gen.first⟩)
    rw [apply_eq_call, apply_eq_call] at steps
    change ((second.call (.revalidate ⟨id, Gen.first⟩)).2).Steady at steps
    rw [revived] at steps
    exact steps.sound.keyed
  have advances := apply_advances keyed (.submitSnapshot movedFabric)
  rw [apply_eq_call] at advances
  obtain ⟨later, present, -, -⟩ := advances.kept id revalidated current
  -- The plan is stale, so the submission leaves it alone.
  have untouched : later = revalidated := by
    rcases call_plan keyed present with ⟨before, there, step⟩ | ⟨absent, -⟩
    · rw [current, Option.some.injEq] at there
      subst there
      cases step with
      | kept => rfl
      | noted target | recorded target => cases target
      | demoted advancing => exact absurd rfl (advancing_not_stale advancing)
    · rw [current] at absent
      cases absent
  have fixed : canonicalize movedFabric = movedFabric := by decide +kernel
  have submitted : (third.call (.submitSnapshot movedFabric)).2.live = authorityOf movedFabric := by
    have accepted : validateStructure (canonicalize movedFabric) = .ok () := by
      rw [fixed]
      exact movedFabric_accepted.valid
    rw [submit_eq accepted, (demoteOutdated_sameLive _ _).1.live, fixed]
    rfl
  rw [whole]
  refine ⟨later, present, congrArg Plan.applicability untouched, congrArg Plan.state untouched, ?_⟩
  unfold deltaOf
  rw [submitted, untouched]
  change (compareAuthority plan.authority (authorityOf movedFabric)).identical = false
  rw [bound]
  exact movedFabric_differs

/-- A plan at its end that is revalidated is current from then on. -/
theorem stale_plan_current :
    Runs.Along apply Unfailing (new {}) (linkDeclared (named "plan-1") ++
      revalidatedStale (named "plan-1")) ∧
      ∃ plan, ((new {}).run (linkDeclared (named "plan-1") ++
        revalidatedStale (named "plan-1"))).plans.find?
          (named "plan-1") = some plan ∧ plan.applicability = .current ∧ plan.state = .stale ∧
        (((new {}).run (linkDeclared (named "plan-1") ++ revalidatedStale (named "plan-1"))).deltaOf
          plan).identical = false := by
  have valid : (named "plan-1" : PlanId).valid = true := by decide
  generalize (named "plan-1" : PlanId) = id at valid
  obtain ⟨plan, found, declared, named, bound, live, same, -⟩ := run_linkDeclared valid
  have writing : ∀ operation ∈ linkDeclared id ++ revalidatedStale id, operation.Writing := by
    intro operation member
    simp only [linkDeclared, linkHistory, revalidatedStale, List.cons_append,
      List.nil_append, List.mem_cons,
      List.not_mem_nil, or_false] at member
    rcases member with rfl | rfl | rfl | rfl | rfl <;> trivial
  refine ⟨detached_along (new_steady {}) rfl _ writing, ?_⟩
  have split : (new {}).run (linkDeclared id ++ revalidatedStale id) =
      ((new {}).run (linkDeclared id)).run (revalidatedStale id) := List.foldl_append
  rw [split]
  exact run_revalidatedStale (run_steady {} _) found declared named bound live same

end Engine

end TrafficFabric
