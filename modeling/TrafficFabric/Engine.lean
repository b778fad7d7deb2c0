import TrafficFabric.Explain
import TrafficFabric.Record
import TrafficFabric.Solve

set_option autoImplicit false

/- The planning engine. Every operation takes the engine and returns its answer together with
the engine it leaves behind; an operation that fails half way leaves behind what it had done. -/
namespace TrafficFabric

/-- The durable side: a repository with an append that may fail at any time and in any
state, and the codec of its plan records. -/
structure Storage where
  Repository : Type
  append : Repository → RecordType → List UInt8 → Status × Repository
  records : Repository → List DurableRecord
  encodePlan : Plan → List UInt8
  decodePlan : List UInt8 → Result Plan

structure EngineConfig where
  coordinatorIncarnation : Gen .coordinatorIncarnation := Gen.first
  coordinatorId : CoordinatorId := default
  maxRecords : UInt64 := Limits.maxAuditRecords.toUInt64

structure DeclareRequest where
  planId : PlanId := default
  attempt : AttemptId := default
  attemptGeneration : Gen .attempt := default
  publisher : PublisherId := default
  publisherBoot : BootId := default
  allowDegraded : Bool := false
  hasIncumbent : Bool := false
  incumbent : Allocation := default
  incumbentRef : PlanRef := default
  tick : UInt64 := 0

structure CommitIntent where
  commit : CommitId := default
  commitGeneration : Gen .commit := default
  tick : UInt64 := 0

structure RecoverReport where
  recordsRead : Nat := 0
  plansRestored : Nat := 0
  plansMarkedStale : Nat := 0
  plansMarkedRevalidationRequired : Nat := 0
  plansSkipped : Nat := 0
deriving DecidableEq, Inhabited

structure PendingSolve where
  allowDegraded : Bool := false
  hasIncumbent : Bool := false
  incumbent : Allocation := default
  incumbentRef : PlanRef := default
deriving Inhabited

structure EngineStats where
  plansCreated : Nat := 0
  plansCommitted : Nat := 0
  plansRejected : Nat := 0
  plansStale : Nat := 0
  supersessions : Nat := 0
  commitsRevalidated : Nat := 0
deriving DecidableEq, Inhabited

structure Engine (storage : Storage) where
  config : EngineConfig := {}
  repository : Option storage.Repository := none
  snapshot : Option FabricSnapshot := none
  live : AuthorityVector := default
  liveValid : Bool := false
  plans : OrdMap PlanId Plan := OrdMap.empty
  explanations : OrdMap PlanId Explanation := OrdMap.empty
  pending : OrdMap PlanId PendingSolve := OrdMap.empty
  incumbent : PlanRef := default
  tick : UInt64 := 0
  stats : EngineStats := {}
  recovery : RecoverReport := {}

namespace Engine

variable {storage : Storage}

/-- The constructor: an engine with no repository, no snapshot and no plan. -/
def new (config : EngineConfig) : Engine storage := { config := config }

/-! Building blocks. -/

def store (engine : Engine storage) (plan : Plan) : Engine storage :=
  { engine with plans := engine.plans.insert plan.id plan }

/-- Appends the plan to the repository, if one is attached. -/
def persist (engine : Engine storage) (plan : Plan) : Status × Engine storage :=
  match engine.repository with
  | none => (.ok (), engine)
  | some repository =>
      let appended := storage.append repository .plan (storage.encodePlan plan)
      (appended.1, { engine with repository := some appended.2 })

/-- Stores the plan and persists it; a failed append replaces the answer. -/
def record {α : Type} (engine : Engine storage) (plan : Plan) (answer : Result α) :
    Result α × Engine storage :=
  match (engine.store plan).persist plan with
  | (.error reason, engine) => (.error reason, engine)
  | (.ok (), engine) => (answer, engine)

/-- Stores both plans before either is appended; the second append is only tried when the
first succeeds. -/
def recordBoth {α : Type} (engine : Engine storage) (first second : Plan) (answer : Result α) :
    Result α × Engine storage :=
  match ((engine.store first).store second).persist first with
  | (.error reason, engine) => (.error reason, engine)
  | (.ok (), engine) =>
      match engine.persist second with
      | (.error reason, engine) => (.error reason, engine)
      | (.ok (), engine) => (answer, engine)

def countStale (engine : Engine storage) : Engine storage :=
  { engine with stats := { engine.stats with plansStale := engine.stats.plansStale + 1 } }

def countRejected (engine : Engine storage) : Engine storage :=
  { engine with stats := { engine.stats with plansRejected := engine.stats.plansRejected + 1 } }

/-- The plan after its bound authority was found to differ from the live one. -/
def outdated (plan : Plan) (delta : AuthorityDelta) : Plan :=
  { plan with
    state := .stale
    applicability := .stale
    feasibility := { plan.feasibility with summary := text "stale: " ++ delta.describe } }

def rejectedFor (plan : Plan) (summary : Text) : Plan :=
  { plan with
    state := .rejected
    feasibility := { plan.feasibility with summary := summary } }

def unknownPlan {α : Type} : Result α := fail .notFound (text "unknown plan identity")

def noSnapshot {α : Type} : Result α :=
  fail .staleAuthority (text "no authoritative snapshot has been submitted")

def notCurrent {α : Type} : Result α :=
  fail .staleAuthority (text "the plan generation reference is not current")

def badTransition {α : Type} (action : Text) (state : PlanState) (rest : Text) : Result α :=
  fail .invalidTransition (text "cannot " ++ action ++ text " a plan in state " ++ state.toText ++ rest)

/-- The snapshot that is live; `live_valid` is only set together with it. -/
def liveSnapshot (engine : Engine storage) : FabricSnapshot := engine.snapshot.getD default

/-! Repository attachment. -/

def attachRepository (engine : Engine storage) (repository : storage.Repository) :
    Status × Engine storage :=
  if engine.repository.isSome then
    (fail .invalidArgument (text "a repository is already attached"), engine)
  else if engine.plans.size ≠ 0 then
    (fail .invalidArgument
      (text "a repository can only be attached before any plan is created"), engine)
  else (.ok (), { engine with repository := some repository })

def detachRepository (engine : Engine storage) : Engine storage :=
  { engine with repository := none }

/-! Snapshots. -/

/-- The loop over the plans in the order of their identities. A failed append stops it. -/
def demoteOutdated (engine : Engine storage) : List PlanId → Status × Engine storage
  | [] => (.ok (), engine)
  | id :: rest =>
      match engine.plans.find? id with
      | none => demoteOutdated engine rest
      | some plan =>
          let delta := compareAuthority plan.authority engine.live
          if plan.state ≠ .committed ∧ PlanStateMachine.isLive plan.state = false then
            demoteOutdated engine rest
          else if delta.identical then demoteOutdated engine rest
          else
            match engine.countStale.record (outdated plan delta) (.ok ()) with
            | (.error reason, engine) => (.error reason, engine)
            | (.ok (), engine) => demoteOutdated engine rest

def submitSnapshot (engine : Engine storage) (raw : FabricSnapshot) : Status × Engine storage :=
  let snapshot := canonicalize raw
  match validateStructure snapshot with
  | .error reason => (.error reason, engine)
  | .ok () =>
      let engine := { engine with
        snapshot := some snapshot
        live := authorityOf snapshot
        liveValid := true }
      engine.demoteOutdated engine.plans.keys

/-! The planning pipeline. -/

def declaredPlan (engine : Engine storage) (request : DeclareRequest) : Plan :=
  { id := request.planId
    generation := Gen.first
    state := .declared
    applicability := .notEvaluated
    attempt := request.attempt
    attemptGeneration := request.attemptGeneration
    publisher := request.publisher
    publisherBoot := request.publisherBoot
    coordinatorIncarnation := engine.config.coordinatorIncarnation
    authority := engine.live
    declaredTick := request.tick }

def declare (engine : Engine storage) (request : DeclareRequest) : Result Plan × Engine storage :=
  if !engine.liveValid then (noSnapshot, engine)
  else if !request.planId.valid || !request.attempt.valid || !request.attemptGeneration.valid ||
      !request.publisher.valid || !request.publisherBoot.valid then
    (fail .invalidArgument
      (text "the declare request is missing identity or incarnation fields"), engine)
  else if !engine.config.coordinatorIncarnation.valid then
    (fail .invalidGeneration
      (text "the engine has no coordinator incarnation and cannot bind a plan"), engine)
  else if engine.config.maxRecords.toNat ≤ engine.plans.size then
    (fail .limitExceeded (text "the plan record bound has been reached"), engine)
  else if engine.plans.contains request.planId then
    (fail .duplicateIdentity (text "a plan with this identity already exists"), engine)
  else
    let plan := engine.declaredPlan request
    match engine.persist plan with
    | (.error reason, engine) => (.error reason, engine)
    | (.ok (), engine) =>
        (.ok plan, { engine with
          stats := { engine.stats with plansCreated := engine.stats.plansCreated + 1 }
          pending := engine.pending.emplace plan.id
            { allowDegraded := request.allowDegraded
              hasIncumbent := request.hasIncumbent
              incumbent := request.incumbent
              incumbentRef := request.incumbentRef }
          plans := engine.plans.emplace plan.id plan })

def validate (engine : Engine storage) (ref : PlanRef) : Status × Engine storage :=
  match engine.plans.find? ref.id with
  | none => (unknownPlan, engine)
  | some plan =>
      if plan.generation ≠ ref.generation then (notCurrent, engine)
      else if !PlanStateMachine.canTransition plan.state .validated then
        (badTransition (text "validate") plan.state [], engine)
      else if !engine.liveValid then
        (noSnapshot, engine.store { plan with state := .stale, applicability := .stale })
      else
        let delta := compareAuthority plan.authority engine.live
        if !delta.identical then
          engine.countStale.record (outdated plan delta)
            (fail .staleAuthority (text "the bound authority advanced: " ++ delta.describe))
        else
          match validateStructure engine.liveSnapshot with
          | .error reason => (.error reason, engine)
          | .ok () =>
              engine.record { plan with state := .validated, applicability := .current } (.ok ())

/-- What the solver found, written into the plan. -/
def solvedPlan (plan : Plan) (outcome : SolveOutcome) (tick : UInt64) : Plan :=
  { plan with
    allocation := outcome.allocation
    feasibility := outcome.feasibility
    components := outcome.components
    alternatives := outcome.alternatives
    objectiveScore := outcome.score
    proposedTick := tick
    state := match outcome.status with
      | .feasible => .proposed
      | .feasibleDegraded => .degraded
      | _ => .rejected }

def churnOf (snapshot : FabricSnapshot) (pending : PendingSolve) (plan : Plan) : ChurnReport :=
  if !pending.hasIncumbent then plan.churn
  else if PlanStateMachine.holdsAllocation plan.state then
    compareChurn pending.incumbent plan.allocation snapshot snapshot.policy
      (scoreAllocation snapshot pending.incumbent).1 plan.objectiveScore
  else
    { plan.churn with
      decision := .holdIncumbent
      rationale := text "the proposal was rejected before a churn comparison could be made" }

/-- The second half of `solve`, once the plan is in the solving state. -/
def finishSolve (engine : Engine storage) (plan : Plan) : Result Plan × Engine storage :=
  let pending := (engine.pending.find? plan.id).getD {}
  let options : SolveOptions :=
    { allowDegraded := pending.allowDegraded
      hasIncumbent := pending.hasIncumbent
      incumbent := pending.incumbent }
  match TrafficFabric.solve engine.liveSnapshot options with
  | .error reason =>
      engine.countRejected.record
        { plan with
          state := .rejected
          applicability := .notEvaluated
          feasibility := { plan.feasibility with
            status := .conflictingInput
            summary := reason.format } } (.error reason)
  | .ok outcome =>
      let solved := solvedPlan plan outcome engine.tick
      let engine := { engine with tick := engine.tick + 1 }
      let engine := if solved.state = .rejected then engine.countRejected else engine
      let compared := { solved with churn := churnOf engine.liveSnapshot pending solved }
      let explanation := buildExplanation compared engine.liveSnapshot
      let explained := { compared with
        explanation := explanation.id
        explanationDigest := explanation.digest }
      { engine with explanations := engine.explanations.insert plan.id explanation }.record
        explained (.ok explained)

def solve (engine : Engine storage) (ref : PlanRef) : Result Plan × Engine storage :=
  match engine.plans.find? ref.id with
  | none => (unknownPlan, engine)
  | some plan =>
      if plan.generation ≠ ref.generation then (notCurrent, engine)
      else if !PlanStateMachine.canTransition plan.state .solving then
        (badTransition (text "solve") plan.state [], engine)
      else if !engine.liveValid then (noSnapshot, engine)
      else
        let delta := compareAuthority plan.authority engine.live
        if !delta.identical then
          engine.countStale.record (outdated plan delta)
            (fail .staleAuthority
              (text "the bound authority advanced before solving: " ++ delta.describe))
        else engine.finishSolve { plan with state := .solving }

/-- Authorization and commit both revalidate first: an advanced authority makes the plan
stale, a contradictory one rejects it. `none` when the bound authority still stands. -/
def revalidateBound (engine : Engine storage) (plan : Plan) (stage : Text) :
    Option (Result Plan × Engine storage) :=
  let delta := compareAuthority plan.authority engine.live
  if delta.stale then
    some (engine.countStale.record (outdated plan delta)
      (fail .staleAuthority
        (text "the bound authority advanced before " ++ stage ++ text ": " ++ delta.describe)))
  else if delta.contradictory then
    some (engine.countRejected.record
      (rejectedFor plan (text "conflicting authority: " ++ delta.describe))
      (fail .conflictingAuthority
        (text "the bound authority contradicts the live authority: " ++ delta.describe)))
  else none

def authorize (engine : Engine storage) (ref : PlanRef) : Result Plan × Engine storage :=
  match engine.plans.find? ref.id with
  | none => (unknownPlan, engine)
  | some plan =>
      if plan.generation ≠ ref.generation then (notCurrent, engine)
      else if !PlanStateMachine.canTransition plan.state .authorized then
        (badTransition (text "authorize") plan.state [], engine)
      else if !engine.liveValid then (noSnapshot, engine)
      else
        match engine.revalidateBound plan (text "authorization") with
        | some answer => answer
        | none =>
            if plan.state = .degraded ∧
                engine.liveSnapshot.policy.allowDegradedCommit = false then
              engine.countRejected.record
                (rejectedFor plan
                  (text "the active policy does not permit a degraded result to be committed"))
                (fail .degradedNotPermitted
                  (text "the plan is degraded and the active policy forbids a degraded commit"))
            else if plan.churn.decision = .holdIncumbent ∨
                plan.churn.decision = .rejectRegression then
              (fail .churnBound
                (text "the incumbent allocation is retained: " ++ plan.churn.rationale), engine)
            else
              let authorized := { plan with state := .authorized, applicability := .current }
              { engine with stats := { engine.stats with
                commitsRevalidated := engine.stats.commitsRevalidated + 1 } }.record
                authorized (.ok authorized)

/-- The incumbent a commit of the plan supersedes. -/
def supersededByCommit (engine : Engine storage) (plan : Plan) : Option Plan :=
  if engine.incumbent.id.valid ∧ engine.incumbent.id ≠ plan.id then
    match engine.plans.find? engine.incumbent.id with
    | none => none
    | some previous => if previous.state = .committed then some previous else none
  else none

def committedPlan (plan : Plan) (intent : CommitIntent) : Plan :=
  { plan with
    state := .committed
    applicability := .current
    commit := intent.commit
    commitGeneration := intent.commitGeneration
    committedTick := intent.tick }

def supersededPlan (plan : Plan) (replacement : PlanRef) : Plan :=
  { plan with
    state := .superseded
    applicability := .superseded
    supersededBy := replacement }

def countSupersession (engine : Engine storage) : Engine storage :=
  { engine with stats := { engine.stats with supersessions := engine.stats.supersessions + 1 } }

/-- The state change of a commit. Memory changes first, then both plans are appended. -/
def applyCommit (engine : Engine storage) (plan : Plan) (intent : CommitIntent) :
    Result Plan × Engine storage :=
  let committed := committedPlan plan intent
  let settle := fun engine : Engine storage =>
    { engine with
      incumbent := plan.ref
      stats := { engine.stats with plansCommitted := engine.stats.plansCommitted + 1 } }
  match engine.supersededByCommit plan with
  | none => (settle engine).record committed (.ok committed)
  | some previous =>
      let replaced := supersededPlan previous plan.ref
      let committed := { committed with supersedes := previous.ref }
      (settle engine.countSupersession).recordBoth replaced committed (.ok committed)

def commit (engine : Engine storage) (ref : PlanRef) (intent : CommitIntent) :
    Result Plan × Engine storage :=
  match engine.plans.find? ref.id with
  | none => (unknownPlan, engine)
  | some plan =>
      if plan.generation ≠ ref.generation then (notCurrent, engine)
      else if !intent.commit.valid || !intent.commitGeneration.valid then
        (fail .invalidGeneration
          (text "the commit identity or commit generation is absent"), engine)
      else if plan.state = .committed then
        -- An exact replay of the same commit is idempotent.
        if plan.commit = intent.commit ∧ plan.commitGeneration = intent.commitGeneration then
          (.ok plan, engine)
        else
          (fail .alreadyCommitted
            (text "the plan is already committed under a different commit generation"), engine)
      else if !PlanStateMachine.canTransition plan.state .committed then
        (badTransition (text "commit") plan.state [], engine)
      else if !engine.liveValid then (noSnapshot, engine)
      else
        match engine.revalidateBound plan (text "commit") with
        | some answer => answer
        | none =>
            let violations := verifyAllocation engine.liveSnapshot plan.allocation
            if !violations.isEmpty then
              engine.countRejected.record
                { plan with
                  state := .rejected
                  feasibility := FeasibilityResult.canonicalizeBindings
                    { plan.feasibility with
                      summary := text "pre-commit verification failed"
                      binding := plan.feasibility.binding ++ violations } }
                (fail .integrityFailure
                  (text "the allocation failed pre-commit verification against the live snapshot"))
            else engine.applyCommit plan intent

/-! Lineage and retirement. -/

/-- The walk along the `supersedes` chain: whether it meets the plan, and how far it got. The
first argument bounds the depth that is left. -/
def walkLineage (engine : Engine storage) (target : PlanId) : Nat → PlanRef → Nat → Bool × Nat
  | 0, _, depth => (false, depth)
  | fuel + 1, cursor, depth =>
      if !cursor.id.valid then (false, depth)
      else if cursor.id = target then (true, depth)
      else
        match engine.plans.find? cursor.id with
        | none => (false, depth)
        | some next => walkLineage engine target fuel next.supersedes (depth + 1)

def supersede (engine : Engine storage) (incumbentRef replacementRef : PlanRef) :
    Result Plan × Engine storage :=
  match engine.plans.find? incumbentRef.id, engine.plans.find? replacementRef.id with
  | some incumbent, some replacement =>
      if incumbent.state ≠ .committed then
        (fail .invalidTransition
          (text "only a committed plan can be superseded explicitly"), engine)
      else if replacement.state ≠ .committed then
        (fail .invalidTransition (text "only a committed plan can supersede another plan"), engine)
      else if incumbent.id = replacement.id then
        (fail .cyclicReference (text "a plan cannot supersede itself"), engine)
      else
        let walked := engine.walkLineage incumbent.id Limits.maxLineageDepth replacement.supersedes 0
        if walked.1 then
          (fail .cyclicReference (text "the supersession lineage would contain a cycle"), engine)
        else if Limits.maxLineageDepth ≤ walked.2 then
          (fail .cyclicReference
            (text "the supersession lineage depth exceeds the bound"), engine)
        else
          let replaced := supersededPlan incumbent replacement.ref
          let replacing := { replacement with supersedes := incumbent.ref }
          engine.countSupersession.recordBoth replaced replacing (.ok replaced)
  | _, _ => (unknownPlan, engine)

def markStale (engine : Engine storage) (ref : PlanRef) : Result Plan × Engine storage :=
  match engine.plans.find? ref.id with
  | none => (unknownPlan, engine)
  | some plan =>
      if !PlanStateMachine.canTransition plan.state .stale then
        (badTransition (text "mark") plan.state (text " stale"), engine)
      else
        let stale := { plan with state := .stale, applicability := .stale }
        engine.countStale.record stale (.ok stale)

def retire (engine : Engine storage) (ref : PlanRef) : Result Plan × Engine storage :=
  match engine.plans.find? ref.id with
  | none => (unknownPlan, engine)
  | some plan =>
      if !PlanStateMachine.canTransition plan.state .retired then
        (badTransition (text "retire") plan.state [], engine)
      else
        let retired := { plan with state := .retired, applicability := .retired }
        { engine with
          incumbent := if engine.incumbent.id = plan.id then default else engine.incumbent }.record
          retired (.ok retired)

/-! Revalidation and recovery. -/

def revalidate (engine : Engine storage) (ref : PlanRef) :
    Result PlanApplicability × Engine storage :=
  match engine.plans.find? ref.id with
  | none => (unknownPlan, engine)
  | some plan =>
      if !engine.liveValid then (.ok .revalidationRequired, engine)
      else
        let delta := compareAuthority plan.authority engine.live
        if delta.identical then
          (.ok .current, engine.store { plan with applicability := .current })
        else if plan.state = .committed then
          engine.countStale.record (outdated plan delta) (.ok .stale)
        else (.ok .stale, engine.store { plan with applicability := .stale })

/-- The log collapsed to the latest record of each plan, with the records that did not
decode. -/
def collapse (storage : Storage) (records : List DurableRecord) : OrdMap PlanId Plan × Nat :=
  records.foldl (fun collected record =>
    if record.type = .plan then
      match storage.decodePlan record.payload with
      | .error _ => (collected.1, collected.2 + 1)
      | .ok plan => (collected.1.insert plan.id plan, collected.2)
    else collected) (OrdMap.empty, 0)

/-- A plan that was still advancing is not resumed. -/
def restored (plan : Plan) : Plan :=
  if PlanStateMachine.isLive plan.state then { plan with state := .stale, applicability := .stale }
  else { plan with applicability := .revalidationRequired }

def recoverFromRepository (engine : Engine storage) : Status × Engine storage :=
  match engine.repository with
  | none => (fail .invalidArgument (text "no repository is attached"), engine)
  | some repository =>
      if engine.plans.size ≠ 0 then
        (fail .invalidArgument (text "recovery requires an empty engine"), engine)
      else
        let records := storage.records repository
        let collapsed := collapse storage records
        let live := (collapsed.1.entries.filter fun entry =>
          PlanStateMachine.isLive entry.2.state).length
        let plans := collapsed.1.mapValues restored
        let incumbent := plans.entries.foldl (fun incumbent entry =>
          if entry.2.state = .committed then entry.2.ref else incumbent) default
        (.ok (), { engine with
          plans := plans
          recovery :=
            { recordsRead := records.length
              plansRestored := collapsed.1.size
              plansMarkedStale := live
              plansMarkedRevalidationRequired := collapsed.1.size - live
              plansSkipped := collapsed.2 }
          stats := { engine.stats with plansStale := engine.stats.plansStale + live }
          incumbent := incumbent
          liveValid := false
          snapshot := none })

/-! Runs. -/

/-- A call of the public interface, or a write of another holder of the shared repository. -/
inductive Operation (storage : Storage)
  | attachRepository (repository : storage.Repository)
  | detachRepository
  | sharedWrite (repository : storage.Repository)
  | submitSnapshot (snapshot : FabricSnapshot)
  | declare (request : DeclareRequest)
  | validate (ref : PlanRef)
  | solve (ref : PlanRef)
  | authorize (ref : PlanRef)
  | commit (ref : PlanRef) (intent : CommitIntent)
  | supersede (incumbent replacement : PlanRef)
  | markStale (ref : PlanRef)
  | retire (ref : PlanRef)
  | revalidate (ref : PlanRef)
  | recoverFromRepository

/-- The engine a call leaves behind, whatever it answers. -/
def apply (engine : Engine storage) : Operation storage → Engine storage
  | .attachRepository repository => (engine.attachRepository repository).2
  | .detachRepository => engine.detachRepository
  | .sharedWrite repository => { engine with repository := engine.repository.map fun _ => repository }
  | .submitSnapshot snapshot => (engine.submitSnapshot snapshot).2
  | .declare request => (engine.declare request).2
  | .validate ref => (engine.validate ref).2
  | .solve ref => (engine.solve ref).2
  | .authorize ref => (engine.authorize ref).2
  | .commit ref intent => (engine.commit ref intent).2
  | .supersede incumbent replacement => (engine.supersede incumbent replacement).2
  | .markStale ref => (engine.markStale ref).2
  | .retire ref => (engine.retire ref).2
  | .revalidate ref => (engine.revalidate ref).2
  | .recoverFromRepository => engine.recoverFromRepository.2

def run (engine : Engine storage) (operations : List (Operation storage)) : Engine storage :=
  operations.foldl apply engine

end Engine

end TrafficFabric
