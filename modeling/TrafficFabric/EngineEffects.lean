import TrafficFabric.EngineLifecycle

set_option autoImplicit false

/- Everything a call of the engine can do, said once: the guards it has passed, the plans it
writes, and what it answers. -/
namespace TrafficFabric

open PlanStateMachine (canTransition isLive)

/-- The answer of a call without its value. -/
def statusOf {α : Type} : Result α → Status
  | .ok _ => .ok ()
  | .error reason => .error reason

/-- A plan that still has to keep up with the live authority. -/
def Plan.Advancing (plan : Plan) : Prop := isLive plan.state = true ∨ plan.state = .committed

namespace Engine

variable {storage : Storage}

/-- What a call answers, and the engine it leaves behind. -/
def call (engine : Engine storage) : Operation storage → Status × Engine storage
  | .attachRepository repository => engine.attachRepository repository
  | .detachRepository => (.ok (), engine.detachRepository)
  | .sharedWrite repository =>
      (.ok (), { engine with repository := engine.repository.map fun _ => repository })
  | .submitSnapshot snapshot => engine.submitSnapshot snapshot
  | .declare request => (statusOf (engine.declare request).1, (engine.declare request).2)
  | .validate ref => engine.validate ref
  | .solve ref => (statusOf (engine.solve ref).1, (engine.solve ref).2)
  | .authorize ref => (statusOf (engine.authorize ref).1, (engine.authorize ref).2)
  | .commit ref intent => (statusOf (engine.commit ref intent).1, (engine.commit ref intent).2)
  | .supersede incumbent replacement =>
      (statusOf (engine.supersede incumbent replacement).1, (engine.supersede incumbent replacement).2)
  | .markStale ref => (statusOf (engine.markStale ref).1, (engine.markStale ref).2)
  | .retire ref => (statusOf (engine.retire ref).1, (engine.retire ref).2)
  | .revalidate ref => (statusOf (engine.revalidate ref).1, (engine.revalidate ref).2)
  | .recoverFromRepository => engine.recoverFromRepository

theorem apply_eq_call (engine : Engine storage) (operation : Operation storage) :
    engine.apply operation = (engine.call operation).2 := by
  cases operation <;> rfl

/-- How the bound authority of a plan compares with the live one. -/
def deltaOf (engine : Engine storage) (plan : Plan) : AuthorityDelta :=
  compareAuthority plan.authority engine.live

def pendingOf (engine : Engine storage) (id : PlanId) : PendingSolve :=
  (engine.pending.find? id).getD {}

/-- What `solve` asks the solver. -/
def solveOptions (engine : Engine storage) (id : PlanId) : SolveOptions :=
  { allowDegraded := (engine.pendingOf id).allowDegraded
    hasIncumbent := (engine.pendingOf id).hasIncumbent
    incumbent := (engine.pendingOf id).incumbent }

/-- The plan with what the solver found, the churn comparison and the explanation. -/
def proposal (engine : Engine storage) (plan : Plan) (outcome : SolveOutcome) : Plan :=
  let solved := solvedPlan { plan with state := .solving } outcome engine.tick
  let compared := { solved with churn := churnOf engine.liveSnapshot (engine.pendingOf plan.id) solved }
  let explanation := buildExplanation compared engine.liveSnapshot
  { compared with
    explanation := explanation.id
    explanationDigest := explanation.digest }

/-- The committed plan that takes the place of an incumbent. -/
def displacingPlan (plan : Plan) (intent : CommitIntent) (previous : PlanRef) : Plan :=
  { committedPlan plan intent with supersedes := previous }

def supersedingPlan (plan : Plan) (incumbent : PlanRef) : Plan := { plan with supersedes := incumbent }

/-- The engines differ in counters, explanations and the incumbent at most. -/
structure Counted (engine counted : Engine storage) : Prop where
  config : counted.config = engine.config
  repository : counted.repository = engine.repository
  snapshot : counted.snapshot = engine.snapshot
  live : counted.live = engine.live
  liveValid : counted.liveValid = engine.liveValid
  plans : counted.plans = engine.plans
  pending : counted.pending = engine.pending

theorem Counted.refl (engine : Engine storage) :
    Counted engine engine := ⟨rfl, rfl, rfl, rfl, rfl, rfl, rfl⟩

/-- The gates a commit passes before it changes anything. -/
structure Commits (engine : Engine storage) (plan : Plan) (intent : CommitIntent) : Prop where
  named : intent.commit.valid = true ∧ intent.commitGeneration.valid = true
  authorized : plan.state = .authorized
  live : engine.liveValid = true
  identical : (engine.deltaOf plan).identical = true
  verified : verifyAllocation engine.liveSnapshot plan.allocation = []

/-- The gates of `authorize`. -/
structure Authorizes (engine : Engine storage) (plan : Plan) : Prop where
  proposed : plan.state = .proposed ∨ plan.state = .degraded
  live : engine.liveValid = true
  identical : (engine.deltaOf plan).identical = true
  permitted : plan.state = .degraded → engine.liveSnapshot.policy.allowDegradedCommit = true
  moves : plan.churn.decision ≠ .holdIncumbent ∧ plan.churn.decision ≠ .rejectRegression

/-- The gates of `solve`. -/
structure Solves (engine : Engine storage) (plan : Plan) : Prop where
  validated : plan.state = .validated
  live : engine.liveValid = true
  identical : (engine.deltaOf plan).identical = true

/-- The one plan a call records: what it becomes, and the incumbent that is then in place. -/
inductive Change (engine : Engine storage) (plan : Plan) : Operation storage → PlanRef → Plan → Prop
  | validated {ref : PlanRef} (declared : plan.state = .declared) (live : engine.liveValid = true)
      (identical : (engine.deltaOf plan).identical = true) :
      Change engine plan (.validate ref) engine.incumbent
        { plan with state := .validated, applicability := .current }
  | outdated {operation : Operation storage} (advancing : plan.Advancing)
      (live : engine.liveValid = true) (differs : (engine.deltaOf plan).identical = false) :
      Change engine plan operation engine.incumbent (outdated plan (engine.deltaOf plan))
  | contradicted {operation : Operation storage} {summary : Text} (advancing : isLive plan.state = true)
      (live : engine.liveValid = true) (differs : (engine.deltaOf plan).identical = false) :
      Change engine plan operation engine.incumbent (rejectedFor plan summary)
  | unsolvable {ref : PlanRef} {reason : Error} (solves : Solves engine plan)
      (failed : TrafficFabric.solve engine.liveSnapshot (engine.solveOptions plan.id) = .error reason) :
      Change engine plan (.solve ref) engine.incumbent
        { plan with
          state := .rejected
          applicability := .notEvaluated
          feasibility := { plan.feasibility with
            status := .conflictingInput
            summary := reason.format } }
  | solved {ref : PlanRef} {outcome : SolveOutcome} (solves : Solves engine plan)
      (found : TrafficFabric.solve engine.liveSnapshot (engine.solveOptions plan.id) = .ok outcome) :
      Change engine plan (.solve ref) engine.incumbent (engine.proposal plan outcome)
  | forbidden {ref : PlanRef} {summary : Text} (degraded : plan.state = .degraded)
      (forbids : engine.liveSnapshot.policy.allowDegradedCommit = false) :
      Change engine plan (.authorize ref) engine.incumbent (rejectedFor plan summary)
  | authorized {ref : PlanRef} (authorizes : Authorizes engine plan) :
      Change engine plan (.authorize ref) engine.incumbent
        { plan with state := .authorized, applicability := .current }
  | unverified {ref : PlanRef} {intent : CommitIntent} {feasibility : FeasibilityResult}
      (authorized : plan.state = .authorized)
      (violated : verifyAllocation engine.liveSnapshot plan.allocation ≠ []) :
      Change engine plan (.commit ref intent) engine.incumbent
        { plan with state := .rejected, feasibility := feasibility }
  | committed {ref : PlanRef} {intent : CommitIntent} (commits : Commits engine plan intent)
      (alone : engine.supersededByCommit plan = none) :
      Change engine plan (.commit ref intent) plan.ref (committedPlan plan intent)
  | marked {ref : PlanRef} (edge : canTransition plan.state .stale = true) :
      Change engine plan (.markStale ref) engine.incumbent
        { plan with state := .stale, applicability := .stale }
  | retired {ref : PlanRef} (edge : canTransition plan.state .retired = true) :
      Change engine plan (.retire ref)
        (if engine.incumbent.id = plan.id then default else engine.incumbent)
        { plan with state := .retired, applicability := .retired }

/-- What a call writes into the plan without recording it. -/
inductive Noted (engine : Engine storage) (plan : Plan) : Operation storage → Plan → Prop
  | current {ref : PlanRef} (live : engine.liveValid = true)
      (identical : (engine.deltaOf plan).identical = true) :
      Noted engine plan (.revalidate ref) { plan with applicability := .current }
  | behind {ref : PlanRef} (live : engine.liveValid = true)
      (differs : (engine.deltaOf plan).identical = false) (uncommitted : plan.state ≠ .committed) :
      Noted engine plan (.revalidate ref) { plan with applicability := .stale }
  | unfounded {ref : PlanRef} (declared : plan.state = .declared) (dark : engine.liveValid = false) :
      Noted engine plan (.validate ref) { plan with state := .stale, applicability := .stale }

/-- The plan a call works on. -/
def Operation.target : Operation storage → Option PlanId
  | .validate ref | .solve ref | .authorize ref | .commit ref _ | .markStale ref | .retire ref
  | .revalidate ref => some ref.id
  | _ => none

/-- The engine with the snapshot in place, before any plan is looked at. -/
def withSnapshot (engine : Engine storage) (snapshot : FabricSnapshot) : Engine storage :=
  { engine with
    snapshot := some snapshot
    live := authorityOf snapshot
    liveValid := true }

/-- The engine with a declared plan, once its record is written. -/
def withDeclared (engine : Engine storage) (request : DeclareRequest) (plan : Plan) : Engine storage :=
  { engine with
    stats := { engine.stats with plansCreated := engine.stats.plansCreated + 1 }
    pending := engine.pending.emplace plan.id
      { allowDegraded := request.allowDegraded
        hasIncumbent := request.hasIncumbent
        incumbent := request.incumbent
        incumbentRef := request.incumbentRef }
    plans := engine.plans.insert plan.id plan }

/-- The incumbent that recovery finds among the plans. -/
def recoveredIncumbent (plans : OrdMap PlanId Plan) : PlanRef :=
  plans.entries.foldl (fun incumbent entry =>
    if entry.2.state = .committed then entry.2.ref else incumbent) default

/-- Everything a call can do. -/
inductive Effect (engine : Engine storage) : Operation storage → Status × Engine storage → Prop
  | refused {operation : Operation storage} (reason : Error) :
      Effect engine operation (.error reason, engine)
  | replayed {ref : PlanRef} {intent : CommitIntent} {plan : Plan}
      (found : engine.plans.find? ref.id = some plan) (committed : plan.state = .committed)
      (same : plan.commit = intent.commit ∧ plan.commitGeneration = intent.commitGeneration) :
      Effect engine (.commit ref intent) (.ok (), engine)
  | deferred {ref : PlanRef} (dark : engine.liveValid = false) :
      Effect engine (.revalidate ref) (.ok (), engine)
  | noted {operation : Operation storage} {id : PlanId} {plan next : Plan} {answer : Status}
      (target : operation.target = some id) (found : engine.plans.find? id = some plan)
      (noted : Noted engine plan operation next) : Effect engine operation (answer, engine.store next)
  | recorded {operation : Operation storage} {id : PlanId} {plan next : Plan}
      {counted : Engine storage} {answer : Status} (target : operation.target = some id)
      (found : engine.plans.find? id = some plan) (frame : Counted engine counted)
      (change : Change engine plan operation counted.incumbent next)
      (honest : ∀ ref intent, operation = .commit ref intent → answer = .ok () →
        next.state = .committed) :
      Effect engine operation (counted.record next answer)
  | displaced {ref : PlanRef} {intent : CommitIntent} {plan previous : Plan}
      {counted : Engine storage} (found : engine.plans.find? ref.id = some plan)
      (frame : Counted engine counted) (commits : Commits engine plan intent)
      (displaces : engine.supersededByCommit plan = some previous)
      (incumbent : counted.incumbent = plan.ref) :
      Effect engine (.commit ref intent)
        (counted.recordBoth (supersededPlan previous plan.ref)
          (displacingPlan plan intent previous.ref) (.ok ()))
  | superseded {incumbentRef replacementRef : PlanRef} {incumbent replacement : Plan}
      {counted : Engine storage} (found : engine.plans.find? incumbentRef.id = some incumbent)
      (present : engine.plans.find? replacementRef.id = some replacement)
      (frame : Counted engine counted) (same : counted.incumbent = engine.incumbent)
      (committed : incumbent.state = .committed ∧ replacement.state = .committed)
      (different : incumbent.id ≠ replacement.id) :
      Effect engine (.supersede incumbentRef replacementRef)
        (counted.recordBoth (supersededPlan incumbent replacement.ref)
          (supersedingPlan replacement incumbent.ref) (.ok ()))
  | attached {repository : storage.Repository} (free : engine.repository = none)
      (empty : engine.plans.size = 0) :
      Effect engine (.attachRepository repository) (.ok (), { engine with repository := some repository })
  | detached : Effect engine .detachRepository (.ok (), { engine with repository := none })
  | shared {repository : storage.Repository} :
      Effect engine (.sharedWrite repository)
        (.ok (), { engine with repository := engine.repository.map fun _ => repository })
  | submitted {raw : FabricSnapshot} (accepted : validateStructure (canonicalize raw) = .ok ()) :
      Effect engine (.submitSnapshot raw)
        ((engine.withSnapshot (canonicalize raw)).demoteOutdated engine.plans.keys)
  | undeclared {request : DeclareRequest} {reason : Error}
      (absent : engine.plans.find? request.planId = none)
      (failed : (engine.persist (engine.declaredPlan request)).1 = .error reason) :
      Effect engine (.declare request)
        (.error reason, (engine.persist (engine.declaredPlan request)).2)
  | declared {request : DeclareRequest} (live : engine.liveValid = true)
      (valid : request.planId.valid = true) (absent : engine.plans.find? request.planId = none)
      (written : (engine.persist (engine.declaredPlan request)).1 = .ok ()) :
      Effect engine (.declare request)
        (.ok (), (engine.persist (engine.declaredPlan request)).2.withDeclared request
          (engine.declaredPlan request))
  | recovered {repository : storage.Repository} {stats : EngineStats} {recovery : RecoverReport}
      (attached : engine.repository = some repository) (empty : engine.plans.size = 0) :
      Effect engine .recoverFromRepository
        (.ok (), { engine with
          plans := (collapse storage (storage.records repository)).1.mapValues restored
          recovery := recovery
          stats := stats
          incumbent := recoveredIncumbent
            ((collapse storage (storage.records repository)).1.mapValues restored)
          liveValid := false
          snapshot := none })

/-! Edges and comparisons. -/

theorem declared_of_edge {state : PlanState} (edge : canTransition state .validated = true) :
    state = .declared := by
  cases state <;> first | rfl | cases edge

theorem validated_of_edge {state : PlanState} (edge : canTransition state .solving = true) :
    state = .validated := by
  cases state <;> first | rfl | cases edge

theorem proposed_of_edge {state : PlanState} (edge : canTransition state .authorized = true) :
    state = .proposed ∨ state = .degraded := by
  cases state <;> first | exact Or.inl rfl | exact Or.inr rfl | cases edge

theorem authorized_of_edge {state : PlanState} (edge : canTransition state .committed = true) :
    state = .authorized := by
  cases state <;> first | rfl | cases edge

theorem differs_of_stale {delta : AuthorityDelta} (stale : delta.stale = true) :
    delta.identical = false := by
  unfold AuthorityDelta.stale at stale
  unfold AuthorityDelta.identical
  rw [Bool.not_eq_true'] at stale
  rw [stale, Bool.false_and, Bool.false_and]

theorem differs_of_contradictory {delta : AuthorityDelta} (contradictory : delta.contradictory = true) :
    delta.identical = false := by
  unfold AuthorityDelta.contradictory at contradictory
  unfold AuthorityDelta.identical
  rw [Bool.or_eq_true, Bool.not_eq_true', Bool.not_eq_true'] at contradictory
  rcases contradictory with regressed | conflicting
  · rw [regressed, Bool.and_false, Bool.false_and]
  · rw [conflicting, Bool.and_false]

theorem identical_of_neither {delta : AuthorityDelta} (fresh : delta.stale = false)
    (agrees : delta.contradictory = false) : delta.identical = true := by
  unfold AuthorityDelta.stale at fresh
  unfold AuthorityDelta.contradictory at agrees
  unfold AuthorityDelta.identical
  rw [Bool.not_eq_false'] at fresh
  rw [Bool.or_eq_false_iff, Bool.not_eq_false', Bool.not_eq_false'] at agrees
  rw [fresh, agrees.1, agrees.2]
  rfl

/-! The calls, one by one. -/

theorem record_status {α : Type} (engine : Engine storage) (plan : Plan) (answer : Result α) :
    (statusOf (engine.record plan answer).1, (engine.record plan answer).2) =
      engine.record plan (statusOf answer) := by
  unfold record
  split <;> rfl

theorem recordBoth_status {α : Type} (engine : Engine storage) (first second : Plan)
    (answer : Result α) :
    (statusOf (engine.recordBoth first second answer).1, (engine.recordBoth first second answer).2) =
      engine.recordBoth first second (statusOf answer) := by
  unfold recordBoth
  split
  · rfl
  · split <;> rfl

variable {engine : Engine storage}

theorem validate_effect (ref : PlanRef) : Effect engine (.validate ref) (engine.validate ref) := by
  unfold validate
  cases found : engine.plans.find? ref.id with
  | none => exact Effect.refused _
  | some plan =>
      dsimp only
      split
      · exact Effect.refused _
      cases edge : canTransition plan.state .validated with
      | false => exact Effect.refused _
      | true =>
          have declared := declared_of_edge edge
          have advancing : plan.Advancing := Or.inl (by rw [declared]; rfl)
          simp only [Bool.not_true, Bool.false_eq_true, if_false]
          split
          · rename_i dark
            exact Effect.noted rfl found (Noted.unfounded declared (by simpa using dark))
          · rename_i lit
            have live : engine.liveValid = true := by simpa using lit
            split
            · rename_i differs
              exact Effect.recorded rfl found ⟨rfl, rfl, rfl, rfl, rfl, rfl, rfl⟩
                (Change.outdated advancing live (by simpa [deltaOf] using differs)) nofun
            · rename_i same
              split
              · exact Effect.refused _
              · exact Effect.recorded rfl found (Counted.refl engine)
                  (Change.validated declared live (by simpa [deltaOf] using same)) nofun

/-- The two ways a bound authority fails to stand. -/
theorem revalidateBound_effect {ref : PlanRef} {plan : Plan} {stage : Text}
    {operation : Operation storage} (target : operation.target = some ref.id)
    (found : engine.plans.find? ref.id = some plan) (advancing : isLive plan.state = true)
    (live : engine.liveValid = true) {answer : Result Plan × Engine storage}
    (answered : engine.revalidateBound plan stage = some answer) :
    Effect engine operation (statusOf answer.1, answer.2) := by
  unfold revalidateBound at answered
  dsimp only at answered
  split at answered
  · rename_i stale
    rw [Option.some.injEq] at answered
    rw [← answered, record_status]
    exact Effect.recorded target found ⟨rfl, rfl, rfl, rfl, rfl, rfl, rfl⟩
      (Change.outdated (Or.inl advancing) live (differs_of_stale stale)) nofun
  · split at answered
    · rename_i contradictory
      rw [Option.some.injEq] at answered
      rw [← answered, record_status]
      exact Effect.recorded target found ⟨rfl, rfl, rfl, rfl, rfl, rfl, rfl⟩
        (Change.contradicted advancing live (differs_of_contradictory contradictory)) nofun
    · cases answered

theorem revalidateBound_stands {plan : Plan} {stage : Text}
    (stands : engine.revalidateBound plan stage = none) : (engine.deltaOf plan).identical = true := by
  unfold revalidateBound at stands
  dsimp only at stands
  split at stands
  · cases stands
  · rename_i fresh
    split at stands
    · cases stands
    · rename_i agrees
      exact identical_of_neither (by simpa [deltaOf] using fresh) (by simpa [deltaOf] using agrees)

theorem finishSolve_effect {ref : PlanRef} {plan : Plan} (found : engine.plans.find? ref.id = some plan)
    (solves : Solves engine plan) :
    Effect engine (.solve ref) (statusOf (engine.finishSolve { plan with state := .solving }).1,
      (engine.finishSolve { plan with state := .solving }).2) := by
  unfold finishSolve
  dsimp only
  split
  · rename_i reason failed
    rw [record_status]
    exact Effect.recorded rfl found ⟨rfl, rfl, rfl, rfl, rfl, rfl, rfl⟩
      (Change.unsolvable solves failed) nofun
  · rename_i outcome solved
    rw [record_status]
    split
    · exact Effect.recorded rfl found ⟨rfl, rfl, rfl, rfl, rfl, rfl, rfl⟩
        (Change.solved solves solved) nofun
    · exact Effect.recorded rfl found ⟨rfl, rfl, rfl, rfl, rfl, rfl, rfl⟩
        (Change.solved solves solved) nofun

theorem solve_effect (ref : PlanRef) :
    Effect engine (.solve ref) (statusOf (engine.solve ref).1, (engine.solve ref).2) := by
  unfold solve
  cases found : engine.plans.find? ref.id with
  | none => exact Effect.refused _
  | some plan =>
      dsimp only
      by_cases current : plan.generation ≠ ref.generation
      · rw [if_pos current]
        exact Effect.refused _
      rw [if_neg current]
      cases edge : canTransition plan.state .solving with
      | false => exact Effect.refused _
      | true =>
          have validated := validated_of_edge edge
          simp only [Bool.not_true, Bool.false_eq_true, if_false]
          by_cases dark : (!engine.liveValid) = true
          · rw [if_pos dark]
            exact Effect.refused _
          rw [if_neg dark]
          have live : engine.liveValid = true := by simpa using dark
          by_cases differs : (!(compareAuthority plan.authority engine.live).identical) = true
          · rw [if_pos differs, record_status]
            exact Effect.recorded rfl found ⟨rfl, rfl, rfl, rfl, rfl, rfl, rfl⟩
              (Change.outdated (Or.inl (by rw [validated]; rfl)) live (by simpa [deltaOf] using differs))
              nofun
          · rw [if_neg differs]
            exact finishSolve_effect found ⟨validated, live, by simpa [deltaOf] using differs⟩

theorem authorize_effect (ref : PlanRef) :
    Effect engine (.authorize ref) (statusOf (engine.authorize ref).1, (engine.authorize ref).2) := by
  unfold authorize
  cases found : engine.plans.find? ref.id with
  | none => exact Effect.refused _
  | some plan =>
      dsimp only
      by_cases current : plan.generation ≠ ref.generation
      · rw [if_pos current]
        exact Effect.refused _
      rw [if_neg current]
      cases edge : canTransition plan.state .authorized with
      | false => exact Effect.refused _
      | true =>
          have proposed := proposed_of_edge edge
          have advancing : isLive plan.state = true :=
            PlanStateMachine.isLive_of_canTransition edge (Or.inl rfl)
          simp only [Bool.not_true, Bool.false_eq_true, if_false]
          by_cases dark : (!engine.liveValid) = true
          · rw [if_pos dark]
            exact Effect.refused _
          rw [if_neg dark]
          have live : engine.liveValid = true := by simpa using dark
          cases bound : engine.revalidateBound plan (text "authorization") with
          | some answer => exact revalidateBound_effect rfl found advancing live bound
          | none =>
              dsimp only
              by_cases forbids : plan.state = .degraded ∧
                  engine.liveSnapshot.policy.allowDegradedCommit = false
              · rw [if_pos forbids, record_status]
                exact Effect.recorded rfl found ⟨rfl, rfl, rfl, rfl, rfl, rfl, rfl⟩
                  (Change.forbidden forbids.1 forbids.2) nofun
              rw [if_neg forbids]
              by_cases holds : plan.churn.decision = .holdIncumbent ∨
                  plan.churn.decision = .rejectRegression
              · rw [if_pos holds]
                exact Effect.refused _
              rw [if_neg holds, record_status]
              have permitted : plan.state = .degraded →
                  engine.liveSnapshot.policy.allowDegradedCommit = true := by
                intro degraded
                by_contra refuses
                exact forbids ⟨degraded, by simpa using refuses⟩
              exact Effect.recorded rfl found ⟨rfl, rfl, rfl, rfl, rfl, rfl, rfl⟩
                (Change.authorized ⟨proposed, live, revalidateBound_stands bound, permitted,
                  not_or.1 holds⟩) nofun

theorem applyCommit_effect {ref : PlanRef} {plan : Plan} {intent : CommitIntent}
    (found : engine.plans.find? ref.id = some plan) (commits : Commits engine plan intent) :
    Effect engine (.commit ref intent)
      (statusOf (engine.applyCommit plan intent).1, (engine.applyCommit plan intent).2) := by
  unfold applyCommit
  dsimp only
  cases superseded : engine.supersededByCommit plan with
  | none =>
      dsimp only
      rw [record_status]
      exact Effect.recorded rfl found ⟨rfl, rfl, rfl, rfl, rfl, rfl, rfl⟩
        (Change.committed commits superseded) fun _ _ _ _ => rfl
  | some previous =>
      dsimp only
      rw [recordBoth_status]
      exact Effect.displaced found ⟨rfl, rfl, rfl, rfl, rfl, rfl, rfl⟩ commits superseded rfl

theorem commit_effect (ref : PlanRef) (intent : CommitIntent) :
    Effect engine (.commit ref intent)
      (statusOf (engine.commit ref intent).1, (engine.commit ref intent).2) := by
  unfold commit
  cases found : engine.plans.find? ref.id with
  | none => exact Effect.refused _
  | some plan =>
      dsimp only
      by_cases current : plan.generation ≠ ref.generation
      · rw [if_pos current]
        exact Effect.refused _
      rw [if_neg current]
      by_cases unnamed : (!intent.commit.valid || !intent.commitGeneration.valid) = true
      · rw [if_pos unnamed]
        exact Effect.refused _
      rw [if_neg unnamed]
      have named : intent.commit.valid = true ∧ intent.commitGeneration.valid = true := by
        simpa using unnamed
      by_cases committed : plan.state = .committed
      · rw [if_pos committed]
        by_cases same : plan.commit = intent.commit ∧ plan.commitGeneration = intent.commitGeneration
        · rw [if_pos same]
          exact Effect.replayed found committed same
        · rw [if_neg same]
          exact Effect.refused _
      rw [if_neg committed]
      cases edge : canTransition plan.state .committed with
      | false => exact Effect.refused _
      | true =>
          have authorized := authorized_of_edge edge
          simp only [Bool.not_true, Bool.false_eq_true, if_false]
          by_cases dark : (!engine.liveValid) = true
          · rw [if_pos dark]
            exact Effect.refused _
          rw [if_neg dark]
          have live : engine.liveValid = true := by simpa using dark
          cases bound : engine.revalidateBound plan (text "commit") with
          | some answer =>
              exact revalidateBound_effect rfl found (by rw [authorized]; rfl) live bound
          | none =>
              dsimp only
              by_cases violated : (!(verifyAllocation engine.liveSnapshot plan.allocation).isEmpty) = true
              · rw [if_pos violated, record_status]
                exact Effect.recorded rfl found ⟨rfl, rfl, rfl, rfl, rfl, rfl, rfl⟩
                  (Change.unverified authorized (by simpa using violated)) nofun
              · rw [if_neg violated]
                exact applyCommit_effect found
                  ⟨named, authorized, live, revalidateBound_stands bound, by simpa using violated⟩

theorem supersede_effect (incumbentRef replacementRef : PlanRef) :
    Effect engine (.supersede incumbentRef replacementRef)
      (statusOf (engine.supersede incumbentRef replacementRef).1,
        (engine.supersede incumbentRef replacementRef).2) := by
  unfold supersede
  cases found : engine.plans.find? incumbentRef.id with
  | none => exact Effect.refused _
  | some incumbent =>
  cases present : engine.plans.find? replacementRef.id with
  | none => exact Effect.refused _
  | some replacement =>
      dsimp only
      by_cases first : incumbent.state ≠ .committed
      · rw [if_pos first]
        exact Effect.refused _
      rw [if_neg first]
      by_cases second : replacement.state ≠ .committed
      · rw [if_pos second]
        exact Effect.refused _
      rw [if_neg second]
      by_cases same : incumbent.id = replacement.id
      · rw [if_pos same]
        exact Effect.refused _
      rw [if_neg same]
      split
      · exact Effect.refused _
      · split
        · exact Effect.refused _
        · rw [recordBoth_status]
          exact Effect.superseded found present ⟨rfl, rfl, rfl, rfl, rfl, rfl, rfl⟩ rfl
            ⟨not_not.1 first, not_not.1 second⟩ same

theorem markStale_effect (ref : PlanRef) :
    Effect engine (.markStale ref) (statusOf (engine.markStale ref).1, (engine.markStale ref).2) := by
  unfold markStale
  cases found : engine.plans.find? ref.id with
  | none => exact Effect.refused _
  | some plan =>
      dsimp only
      cases edge : canTransition plan.state .stale with
      | false => exact Effect.refused _
      | true =>
          simp only [Bool.not_true, Bool.false_eq_true, if_false]
          rw [record_status]
          exact Effect.recorded rfl found ⟨rfl, rfl, rfl, rfl, rfl, rfl, rfl⟩ (Change.marked edge) nofun

theorem retire_effect (ref : PlanRef) :
    Effect engine (.retire ref) (statusOf (engine.retire ref).1, (engine.retire ref).2) := by
  unfold retire
  cases found : engine.plans.find? ref.id with
  | none => exact Effect.refused _
  | some plan =>
      dsimp only
      cases edge : canTransition plan.state .retired with
      | false => exact Effect.refused _
      | true =>
          simp only [Bool.not_true, Bool.false_eq_true, if_false]
          rw [record_status]
          exact Effect.recorded rfl found ⟨rfl, rfl, rfl, rfl, rfl, rfl, rfl⟩ (Change.retired edge) nofun

theorem revalidate_effect (ref : PlanRef) :
    Effect engine (.revalidate ref) (statusOf (engine.revalidate ref).1, (engine.revalidate ref).2) := by
  unfold revalidate
  cases found : engine.plans.find? ref.id with
  | none => exact Effect.refused _
  | some plan =>
      dsimp only
      by_cases dark : (!engine.liveValid) = true
      · rw [if_pos dark]
        exact Effect.deferred (by simpa using dark)
      rw [if_neg dark]
      have live : engine.liveValid = true := by simpa using dark
      by_cases identical : (compareAuthority plan.authority engine.live).identical = true
      · rw [if_pos identical]
        exact Effect.noted rfl found (Noted.current live identical)
      rw [if_neg identical]
      have differs : (engine.deltaOf plan).identical = false := by simpa [deltaOf] using identical
      by_cases committed : plan.state = .committed
      · rw [if_pos committed, record_status]
        exact Effect.recorded rfl found ⟨rfl, rfl, rfl, rfl, rfl, rfl, rfl⟩
          (Change.outdated (Or.inr committed) live differs) nofun
      · rw [if_neg committed]
        exact Effect.noted rfl found (Noted.behind live differs committed)

theorem attachRepository_effect (repository : storage.Repository) :
    Effect engine (.attachRepository repository) (engine.attachRepository repository) := by
  unfold attachRepository
  by_cases taken : engine.repository.isSome = true
  · rw [if_pos taken]
    exact Effect.refused _
  rw [if_neg taken]
  by_cases filled : engine.plans.size ≠ 0
  · rw [if_pos filled]
    exact Effect.refused _
  · rw [if_neg filled]
    exact Effect.attached (by simpa using taken) (not_not.1 filled)

theorem submitSnapshot_effect (raw : FabricSnapshot) :
    Effect engine (.submitSnapshot raw) (engine.submitSnapshot raw) := by
  unfold submitSnapshot
  dsimp only
  cases accepted : validateStructure (canonicalize raw) with
  | error reason => exact Effect.refused _
  | ok => exact Effect.submitted accepted

theorem declare_effect (request : DeclareRequest) :
    Effect engine (.declare request) (statusOf (engine.declare request).1, (engine.declare request).2) := by
  unfold declare
  by_cases dark : (!engine.liveValid) = true
  · rw [if_pos dark]
    exact Effect.refused _
  rw [if_neg dark]
  by_cases missing : (!request.planId.valid || !request.attempt.valid ||
      !request.attemptGeneration.valid || !request.publisher.valid ||
      !request.publisherBoot.valid) = true
  · rw [if_pos missing]
    exact Effect.refused _
  rw [if_neg missing]
  by_cases unbound : (!engine.config.coordinatorIncarnation.valid) = true
  · rw [if_pos unbound]
    exact Effect.refused _
  rw [if_neg unbound]
  by_cases full : engine.config.maxRecords.toNat ≤ engine.plans.size
  · rw [if_pos full]
    exact Effect.refused _
  rw [if_neg full]
  by_cases known : engine.plans.contains request.planId = true
  · rw [if_pos known]
    exact Effect.refused _
  rw [if_neg known]
  have absent : engine.plans.find? request.planId = none := by simpa [OrdMap.contains] using known
  have valid : request.planId.valid = true := by
    rw [Bool.not_eq_true, Bool.or_eq_false_iff, Bool.or_eq_false_iff, Bool.or_eq_false_iff,
      Bool.or_eq_false_iff, Bool.not_eq_false'] at missing
    exact missing.1.1.1.1
  have kept := persist_plans engine (engine.declaredPlan request)
  dsimp only
  cases persisted : engine.persist (engine.declaredPlan request) with
  | mk answer next =>
      cases answer with
      | error reason =>
          have effect := Effect.undeclared absent (congrArg Prod.fst persisted)
          rw [persisted] at effect
          exact effect
      | ok =>
          have effect := Effect.declared (by simpa using dark) valid absent (congrArg Prod.fst persisted)
          rw [persisted] at effect kept
          have emplaced : next.plans.emplace request.planId (engine.declaredPlan request) =
              next.plans.insert request.planId (engine.declaredPlan request) := by
            rw [show next.plans = engine.plans from kept]
            simp [OrdMap.emplace, absent]
          unfold withDeclared at effect
          rw [show (engine.declaredPlan request).id = request.planId from rfl, ← emplaced] at effect
          exact effect

theorem recoverFromRepository_effect :
    Effect engine .recoverFromRepository engine.recoverFromRepository := by
  unfold recoverFromRepository
  cases attached : engine.repository with
  | none => exact Effect.refused _
  | some repository =>
      dsimp only
      by_cases filled : engine.plans.size ≠ 0
      · rw [if_pos filled]
        exact Effect.refused _
      · rw [if_neg filled, ← attached]
        exact Effect.recovered attached (not_not.1 filled)

/-- One lemma for each call. -/
theorem call_effect (engine : Engine storage) (operation : Operation storage) :
    Effect engine operation (engine.call operation) := by
  cases operation with
  | attachRepository repository => exact attachRepository_effect repository
  | detachRepository => exact Effect.detached
  | sharedWrite repository => exact Effect.shared
  | submitSnapshot snapshot => exact submitSnapshot_effect snapshot
  | declare request => exact declare_effect request
  | validate ref => exact validate_effect ref
  | solve ref => exact solve_effect ref
  | authorize ref => exact authorize_effect ref
  | commit ref intent => exact commit_effect ref intent
  | supersede incumbent replacement => exact supersede_effect incumbent replacement
  | markStale ref => exact markStale_effect ref
  | retire ref => exact retire_effect ref
  | revalidate ref => exact revalidate_effect ref
  | recoverFromRepository => exact recoverFromRepository_effect

end Engine

end TrafficFabric
