import TrafficFabric.CanonicalForm
import TrafficFabric.FailedAppends
import TrafficFabric.FittingPlans
import TrafficFabric.SolverVerified
import TrafficFabric.WorkConservation

set_option autoImplicit false

/- Which of the records the engine writes can be read back. -/
namespace TrafficFabric

section UnitPaths

variable {snapshot : FabricSnapshot} {permille : Int} {problem : Problem} {demand : Demand}
variable (accepted : Accepted snapshot) (safe : problem.Safe snapshot permille)
variable (only : snapshot.demands = [demand])

include accepted safe only

/-- One demand loads a resource that only one path uses with its share on that path. -/
theorem Problem.Safe.sole_share {path : PathFacts} {id : ResourceId}
    (sole : ∀ other ∈ planningPaths snapshot, id ∈ other.resources ↔ other.id = path.id)
    {resource : ResourceState} (found : problem.resources.find? id = some resource) :
    resource.allocated = (problem.demandOf demand.id).share path.id := by
  have member : demand ∈ snapshot.demands := by
    rw [only]
    exact List.mem_singleton_self demand
  obtain ⟨state, present, current, derived, -⟩ := safe.demand_state accepted member
  have load := safe.consistent.built.load_eq accepted id
  rw [only, List.map_singleton, List.sum_singleton, current] at load
  rw [safe.consistent.loads id resource found, load, current]
  have uses : ∀ other amount, state.shares.find? other = some amount →
      (if decide (id ∈ (problem.pathOf other).resources) then amount else 0) =
        if other = path.id then amount else 0 := by
    intro other amount held
    obtain ⟨candidate, named⟩ := safe.consistent.eligible_candidate accepted present
      (safe.consistent.shares demand.id state present other amount held).2.1
    have same := sole _ candidate
    rw [named] at same
    simp only [decide_eq_true_eq, same]
  unfold DemandState.placed
  rw [OrdMap.total_congr state.shares uses]
  exact OrdMap.total_key state.shares path.id


/-- Where each eligible path has a resource of its own, with room for one unit, the demand has a unit on
each path it uses. -/
theorem Problem.Safe.unit_shares (own : ∀ path ∈ planningPaths snapshot, ∃ id, path.resources = [id] ∧
      ∀ other ∈ planningPaths snapshot, id ∈ other.resources ↔ other.id = path.id)
    (unit : ∀ id resource, problem.resources.find? id = some resource → resource.ceiling = 1)
    (filled : problem.Filled (derivedDemand snapshot demand)) {count : Nat}
    (wanted : (count : Int) ≤ min (derivedDemand snapshot demand).desired
      (derivedDemand snapshot demand).maximum)
    (wide : count ≤ (derivedDemand snapshot demand).eligiblePaths.length) :
    (count : Int) ≤ (problem.demandOf demand.id).granted ∧
      count ≤ (problem.demandOf demand.id).shares.entries.length := by
  have member : demand ∈ snapshot.demands := by
    rw [only]
    exact List.mem_singleton_self demand
  obtain ⟨state, present, current, derived, -⟩ := safe.demand_state accepted member
  have share : ∀ path amount, state.shares.find? path = some amount → amount = 1 := by
    intro path amount held
    obtain ⟨positive, eligible, -⟩ := safe.consistent.shares demand.id state present path amount held
    obtain ⟨candidate, named⟩ := safe.consistent.eligible_candidate accepted present eligible
    obtain ⟨id, resources, -⟩ := own _ candidate
    have used : id ∈ (problem.pathOf path).resources := by
      rw [resources]
      exact List.mem_singleton_self id
    obtain ⟨resource, found⟩ := safe.consistent.built.resource_known accepted
      ((planningPath_resources accepted candidate).2.2.2 id used)
    have within := safe.consistent.within id resource found
    have load := safe.consistent.share_le_load present held used
    rw [unit id resource found, safe.consistent.loads id resource found] at within
    omega
  have granted : state.granted = state.shares.entries.length := by
    rw [safe.consistent.grants demand.id state present]
    unfold DemandState.placed
    have units : ∀ path amount, state.shares.find? path = some amount →
        (if true then amount else 0) = 1 := by
      intro path amount held
      rw [if_pos rfl]
      exact share path amount held
    rw [OrdMap.total_congr state.shares units]
    unfold OrdMap.total
    simp
  rw [current, granted]
  rcases filled with enough | blocked
  · rw [derivedDemand_demand, current, granted] at enough
    omega
  · have covers : (derivedDemand snapshot demand).eligiblePaths ⊆ state.shares.keys := by
      intro path listed
      obtain ⟨candidate, named⟩ := safe.consistent.eligible_candidate accepted present
        (by rw [derived]; exact listed)
      obtain ⟨id, uses, resource, found, full⟩ := blocked path listed
      obtain ⟨sole, resources, users⟩ := own _ candidate
      rw [resources, List.mem_singleton] at uses
      subst uses
      have alone := safe.sole_share accepted only users found
      rw [unit _ resource found, alone, named, current] at full
      rw [OrdMap.mem_keys_iff]
      unfold DemandState.share at full
      cases held : state.shares.find? path with
      | none =>
          rw [held] at full
          exact absurd full (by decide)
      | some amount => rfl
    have fewer := List.Subperm.length_le ((derivedDemand_eligible_nodup accepted demand).subperm covers)
    unfold OrdMap.keys at fewer
    rw [List.length_map] at fewer
    omega

end UnitPaths

/-- A fabric with one demand, whose paths have a resource of one unit each, is solved with as many paths as
the demand needs units. -/
theorem solve_unit_paths {snapshot : FabricSnapshot} {options : SolveOptions}
    {demand : Demand} {count : Nat}
    (accepted : Accepted snapshot) (budget : 0 < options.maxIterations)
    (fits : overflowingResource snapshot = none)
    (quiet : reservationConflict (derivation snapshot) = false) (weights : SupportedWeights snapshot)
    (plain : hasTerm snapshot.objective.terms .minimizePathCount = false)
    (fixed : hasTerm snapshot.objective.terms .minimizeMaxUtilization = false)
    (current : ¬ HasStalePath snapshot) (only : snapshot.demands = [demand])
    (active : demand.effective.covers snapshot.evaluationTick = true) (admitted : Admitted snapshot demand)
    (own : ∀ path ∈ planningPaths snapshot, ∃ id, path.resources = [id] ∧
      ∀ other ∈ planningPaths snapshot, id ∈ other.resources ↔ other.id = path.id)
    (unit : ∀ source ∈ snapshot.capacity.resources, (recomputeCeiling
      (resourceState (publishedResidual snapshot source))
        snapshot.policy.maxUtilizationPermille).ceiling = 1)
    (floor : (derivedDemand snapshot demand).floor ≤ count)
    (wanted : (count : Int) ≤ min (derivedDemand snapshot demand).desired
      (derivedDemand snapshot demand).maximum)
    (wide : count ≤ (derivedDemand snapshot demand).eligiblePaths.length) :
    ∃ outcome, solve snapshot options = .ok outcome ∧ outcome.status = .feasible ∧
      ∃ entry ∈ outcome.allocation.demands, count ≤ entry.shares.length := by
  have member : demand ∈ snapshot.demands := by
    rw [only]
    exact List.mem_singleton_self demand
  have positive := (accepted.policy_cap).1
  have start : startingCeiling snapshot (derivation snapshot) = snapshot.policy.maxUtilizationPermille := by
    unfold startingCeiling searchesCeiling
    rw [fixed, Bool.and_false]
    rfl
  have constructs : Constructs snapshot (derivation snapshot) :=
    { weights := weights
      ceiling := by
        rw [start]
        omega }
  have kept : (constructMinimums snapshot (derivation snapshot) options
      snapshot.policy.maxUtilizationPermille).ceiling = snapshot.policy.maxUtilizationPermille := by
    unfold constructMinimums
    dsimp only
    rw [if_neg fun both => lt_irrefl _ both.2.2]
  have safe := constructed_safe_at accepted options positive.le le_rfl
  rw [kept] at safe
  have filled := constructed_fills accepted options positive.le le_rfl plain member active admitted
  have ceilings : ∀ id resource, (constructed snapshot (derivation snapshot) options
      snapshot.policy.maxUtilizationPermille).resources.find? id = some resource →
        resource.ceiling = 1 := by
    intro id resource found
    obtain ⟨source, inside, -, same⟩ := safe.consistent.built.resource_of accepted found
    obtain ⟨-, -, usable, committed, reserved, available⟩ := ResourceState.fixed_parts same
    rw [safe.consistent.ceilings id resource found, ← unit source inside]
    unfold recomputeCeiling
    rw [usable, committed, reserved, available]
  obtain ⟨granted, shares⟩ := safe.unit_shares accepted only own ceilings filled wanted wide
  have floors : floorsMet (constructed snapshot (derivation snapshot) options
      snapshot.policy.maxUtilizationPermille) = true := by
    rw [floorsMet_iff accepted safe, only]
    intro other inside _
    rw [List.mem_singleton.mp inside]
    exact floor.trans granted
  have derives : derive snapshot = .ok (derivation snapshot) := (derive_eq_ok accepted _).mpr ⟨fits, rfl⟩
  refine ⟨_, solve_of_derives derives budget, ?_, ?_⟩
  · rw [solveDerived_constructs constructs, start, quiet]
    rcases plan_reports accepted options fits positive.le le_rfl with same | stale
    · rw [same]
      unfold verdictOf
      rw [if_neg Bool.false_ne_true, if_pos floors]
    · exact absurd stale.2.stale current
  · obtain ⟨degraded, allocation⟩ := plan_allocation snapshot (derivation snapshot) options
      snapshot.policy.maxUtilizationPermille false
    rw [solveDerived_constructs constructs, start, quiet, allocation]
    dsimp only
    refine ⟨entryOf options (constructed snapshot (derivation snapshot) options
      snapshot.policy.maxUtilizationPermille) (derivedDemand snapshot demand), ?_, ?_⟩
    · rw [mem_buildAllocation safe options]
      exact ⟨demand, member, rfl⟩
    have same := congrArg List.length (entryOf_shares accepted safe member options fun path _ _ => path)
    rw [List.length_map, List.length_map] at same
    rw [same]
    exact shares

namespace Engine

/-- Every accepted snapshot of the history bounds the paths of its demands. -/
def AllBundled (history : List (Operation observed)) : Prop :=
  ∀ raw, .submitSnapshot raw ∈ history → validateStructure (canonicalize raw) = .ok () →
    Bundled (canonicalize raw)

/-- Recovery takes a plan's last record when it can be read, and an older one when it cannot. -/
theorem collapse_last (records : List DurableRecord) {record : DurableRecord} {plan : Plan}
    (spelled : Journal.Says record .plan (encodePlan plan)) :
    (plan.Readable → (collapse durable (records ++ [record])).1.find? plan.id = some plan.durable) ∧
      ((∀ read, decodePlan (encodePlan plan) ≠ .ok read) →
        collapse durable (records ++ [record]) =
          ((collapse durable records).1, (collapse durable records).2 + 1)) := by
  have codec : durable.decodePlan = decodePlan := rfl
  constructor
  · intro readable
    unfold collapse
    rw [List.foldl_append, List.foldl_cons, List.foldl_nil, if_pos spelled.1, spelled.2, codec]
    simp only [decodePlan_of_readable readable]
    exact OrdMap.find?_insert_self _ _ _
  · intro fails
    cases decoded : decodePlan (encodePlan plan) with
    | error reason =>
        unfold collapse
        rw [List.foldl_append, List.foldl_cons, List.foldl_nil, if_pos spelled.1, spelled.2, codec]
        simp only [decoded]
    | ok read => exact absurd decoded (fails read)

/-! A fabric whose one demand needs sixty-six paths, and a policy that does not bound them. -/

def wideNames : List Text :=
  ([97, 98, 99, 100, 101, 102, 103, 104, 105, 106, 107, 108, 109, 110, 111, 112, 113, 114, 115, 116,
    117, 118] : List UInt8).flatMap fun first => [[first, 97], [first, 98], [first, 99]]

theorem wideNames_valid : ∀ name ∈ wideNames, isValidName name = true := by decide +kernel

def wideResource (name : Text) (valid : isValidName name = true) : FabricResource :=
  { linkResource with
    id := ⟨name, Id.canonical_of_valid valid⟩
    usableCapacity := 1 }

def widePath (name : Text) (valid : isValidName name = true) : CandidatePath :=
  { linkPath with
    id := ⟨name, Id.canonical_of_valid valid⟩
    authority := ⟨⟨name, Id.canonical_of_valid valid⟩, Gen.first⟩
    resources := [⟨name, Id.canonical_of_valid valid⟩] }

def wideFabric : FabricSnapshot :=
  { linkFabric with
    capacity := { linkFabric.capacity with
      resources := wideNames.attach.map fun name => wideResource name.1 (wideNames_valid name.1 name.2) }
    demands := [{ linkDemand with
      minimumBandwidth := 66
      desiredBandwidth := 66
      maximumBandwidth := 66 }]
    paths := wideNames.attach.map fun name => widePath name.1 (wideNames_valid name.1 name.2) }

theorem wideFabric_accepted : Accepted wideFabric :=
  accepted_of_checks wideFabric (by decide +kernel) (by decide +kernel)

theorem wideFabric_paths : ∀ path ∈ planningPaths wideFabric, ∃ id, path.resources = [id] ∧
    ∀ other ∈ planningPaths wideFabric, id ∈ other.resources ↔ other.id = path.id := by
  have listed : ∀ path ∈ planningPaths wideFabric, ∃ name, ∃ valid : isValidName name = true,
      path = (widePath name valid).toPathFacts := by
    intro path member
    obtain ⟨candidate, inside, rfl⟩ := List.mem_map.mp member
    obtain ⟨name, -, rfl⟩ := List.mem_map.mp inside
    exact ⟨name.1, wideNames_valid name.1 name.2, rfl⟩
  intro path member
  obtain ⟨name, valid, rfl⟩ := listed path member
  refine ⟨⟨name, Id.canonical_of_valid valid⟩, rfl, ?_⟩
  intro other another
  obtain ⟨second, checked, rfl⟩ := listed other another
  show (⟨name, Id.canonical_of_valid valid⟩ : ResourceId) ∈ [(⟨second, Or.inr checked⟩ : ResourceId)] ↔
    (⟨second, Or.inr checked⟩ : PathId) = ⟨name, Id.canonical_of_valid valid⟩
  rw [List.mem_singleton, Id.ext_iff, Id.ext_iff, eq_comm]

theorem solve_wideFabric : ∃ outcome, TrafficFabric.solve wideFabric {} = .ok outcome ∧
    outcome.status = .feasible ∧ ∃ entry ∈ outcome.allocation.demands,
      Limits.maxPathsPerDemand < entry.shares.length := by
  have current : ¬ HasStalePath wideFabric := by
    intro ⟨path, inside, differs⟩
    obtain ⟨name, -, rfl⟩ := List.mem_map.mp inside
    exact differs rfl
  have known : ∀ demand ∈ wideFabric.demands, demand.effective.covers wideFabric.evaluationTick = true ∧
      policyExclusion (derivedDemand wideFabric demand).notes = [] ∧
      (derivedDemand wideFabric demand).floor ≤ (66 : Nat) ∧
      ((66 : Nat) : Int) ≤ min (derivedDemand wideFabric demand).desired
        (derivedDemand wideFabric demand).maximum ∧
      66 ≤ (derivedDemand wideFabric demand).eligiblePaths.length := by
    decide +kernel
  obtain ⟨active, admitted, floor, wanted, wide⟩ := known _ (List.mem_singleton_self _)
  obtain ⟨outcome, solved, feasible, entry, inside, shares⟩ : ∃ outcome,
      TrafficFabric.solve wideFabric {} = .ok outcome ∧ outcome.status = .feasible ∧
      ∃ entry ∈ outcome.allocation.demands, 66 ≤ entry.shares.length :=
    solve_unit_paths wideFabric_accepted (by decide) (by decide +kernel) (by decide +kernel)
      ((supportedWeights_iff _).mpr (by decide)) (by decide) (by decide) current rfl active admitted
      wideFabric_paths (by decide +kernel) floor wanted wide
  exact ⟨outcome, solved, feasible, entry, inside, lt_of_lt_of_le (by decide) shares⟩

/-- The calls that bring a plan of the wide fabric to the solver. -/
def wideHistory (id : PlanId) : List (Operation observed) :=
  [.attachRepository (boundedJournal 10, []), .submitSnapshot wideFabric, .declare (linkRequest id none),
    .validate ⟨id, Gen.first⟩]

/-- The engine before the plan is declared. -/
def wideEngine : Engine observed :=
  ({ repository := some (boundedJournal 10, []) } : Engine observed).withSnapshot wideFabric

theorem persist_observed {engine : Engine observed} {plan : Plan} {repository : observed.Repository}
    (attached : engine.repository = some repository) :
    (engine.persist plan).1 = (repository.1.append .plan (encodePlan plan)).1 := by
  unfold persist
  rw [attached]

theorem writeAll_observed (repository : observed.Repository) (plan : Plan) :
    ∃ next : observed.Repository, (writeAll (some repository) [plan]).2 = some next ∧
      next.2 = repository.2 ++ [encodePlan plan] := by
  rw [writeAll_cons]
  cases answered : observed.append repository .plan (observed.encodePlan plan) with
  | mk answer next =>
      have told : next.2 = repository.2 ++ [encodePlan plan] :=
        (congrArg (fun result => result.2.2) answered).symm
      cases answer with
      | error reason => exact ⟨next, rfl, told⟩
      | ok =>
          refine ⟨next, ?_, told⟩
          dsimp only
          rw [writeAll_nil]

theorem wideEngine_eq :
    wideEngine = run (new {}) [.attachRepository (boundedJournal 10, []), .submitSnapshot wideFabric] := by
  obtain ⟨raw, same⟩ := wideFabric_accepted.canonical
  have fixed : canonicalize wideFabric = wideFabric := by rw [← same, canonicalize_idem]
  have submitted : (({ repository := some (boundedJournal 10, []) } : Engine observed).submitSnapshot
      wideFabric).2 = wideEngine := by
    unfold submitSnapshot wideEngine
    simp only [fixed, wideFabric_accepted.valid]
    rfl
  rw [← submitted]
  rfl

theorem run_wideHistory (id : PlanId) : run (new {}) (wideHistory id) =
    ((wideEngine.declare (linkRequest id none)).2.validate ⟨id, Gen.first⟩).2 := by
  have split : wideHistory id = [.attachRepository (boundedJournal 10, []), .submitSnapshot wideFabric] ++
      [.declare (linkRequest id none), .validate ⟨id, Gen.first⟩] := rfl
  have later : ∀ engine : Engine observed,
      run engine [.declare (linkRequest id none), .validate ⟨id, Gen.first⟩] =
        ((engine.declare (linkRequest id none)).2.validate ⟨id, Gen.first⟩).2 := fun _ => rfl
  rw [split, ← later, wideEngine_eq]
  exact List.foldl_append

theorem wide_written (plan : Plan) (short : plan.bodyLength ≤ 1048576) :
    (wideEngine.persist plan).1 = .ok () := by
  have bound := length_encodePlan plan
  have fits : (encodePlan plan).length ≤ Frame.maxRecordPayload := by
    unfold Frame.maxRecordPayload Limits.maxFramePayload
    omega
  have one : (boundedJournal 10).Healthy 1 :=
    ⟨⟨rfl, rfl⟩, rfl, (by decide), fun _ member => absurd member List.not_mem_nil⟩
  obtain ⟨answered, -, -⟩ := Journal.Healthy.append (boundedJournal 10) _ one fits
  have attached : wideEngine.repository = some (boundedJournal 10, []) := rfl
  rw [persist_observed attached]
  exact answered

theorem wide_declarable {id : PlanId} (valid : id.valid = true) :
    Declarable wideEngine (linkRequest id none) := by
  refine ⟨rfl, valid, ⟨rfl, rfl⟩, ⟨rfl, rfl⟩, rfl, ?_, rfl, wide_written _ ?_⟩
  · show 0 < ({} : EngineConfig).maxRecords.toNat
    decide
  · show ({} : Plan).bodyLength ≤ 1048576
    decide

/-- A plan that is declared and validated is ready for the solver. -/
theorem declared_solves {storage : Storage} {engine : Engine storage} (steady : engine.Steady)
    {request : DeclareRequest} {snapshot : FabricSnapshot} (declarable : Declarable engine request)
    (present : engine.snapshot = some snapshot) {after : Engine storage}
    (called : after = ((engine.declare request).2.validate ⟨request.planId, Gen.first⟩).2) :
    ∃ plan, after.plans.find? request.planId = some plan ∧ plan.generation = Gen.first ∧
      Solves after plan ∧ after.liveSnapshot = snapshot ∧ plan.id = request.planId ∧
      after.pendingOf request.planId = request.pending ∧
      after.repository = (writeAll (writeAll engine.repository [engine.declaredPlan request]).2
        [{ engine.declaredPlan request with state := .validated, applicability := .current }]).2 := by
  obtain ⟨held, there, accepted, live⟩ := steady.liveSound declarable.live
  rw [present, Option.some.injEq] at there
  subst there
  let plan := engine.declaredPlan request
  obtain ⟨next, declared⟩ : ∃ next, next = (engine.declare request).2 := ⟨_, rfl⟩
  have frame := declared
  rw [declare_eq declarable, persist_write] at frame
  have found : next.plans.find? request.planId = some plan := by
    rw [frame]
    exact OrdMap.find?_insert_self _ _ _
  have placed : next.snapshot = some snapshot ∧ next.live = engine.live ∧ next.liveValid = true := by
    rw [frame]
    exact ⟨present, rfl, declarable.live⟩
  have pending : next.pendingOf request.planId = request.pending := by
    rw [frame]
    unfold pendingOf
    change ((engine.pending.emplace request.planId _).find? request.planId).getD {} = _
    rw [OrdMap.find?_emplace, if_pos rfl, steady.pendingKnown request.planId declarable.absent]
    rfl
  have identical : (next.deltaOf plan).identical = true := by
    unfold deltaOf
    rw [placed.2.1]
    change (compareAuthority engine.live engine.live).identical = true
    rw [live, compareAuthority_identical (authorityOf_valid accepted) (authorityOf_valid accepted)]
  have shown : next.liveSnapshot = snapshot := liveSnapshot_eq placed.1
  have current : plan.generation = (⟨request.planId, Gen.first⟩ : PlanRef).generation := rfl
  have validated := validate_eq found current rfl placed.2.2 identical (by
    rw [shown]
    exact accepted.valid)
  have written : next.repository = (writeAll engine.repository [plan]).2 := by
    rw [frame]
    rfl
  rw [← declared, validated, record_write] at called
  subst called
  refine ⟨{ plan with state := .validated, applicability := .current }, ?_, rfl, ⟨rfl, placed.2.2, ?_⟩,
    shown, rfl, pending, ?_⟩
  · exact OrdMap.find?_insert_self _ _ _
  · exact identical
  · rw [← written]

/-- In every run, the records a call asks for are those of plans that can be read back exactly when
none of their demands lists too many shares. Where the accepted snapshots bound the paths of a demand
every one of them can, and recovery finds it. -/
theorem appended_plans_read_iff (config : EngineConfig) (history : List (Operation observed))
    (operation : Operation observed) (writing : operation.Writing) :
    ∃ written : List Plan,
      ((run (new config) history).call operation).2.asked =
        (run (new config) history).asked ++ written.map encodePlan ∧
      (∀ plan ∈ written,
        (∃ read, decodePlan (encodePlan plan) = .ok read) ↔ plan.allocation.Narrow) ∧
      (AllBundled (history ++ [operation]) → ∀ plan ∈ written,
        decodePlan (encodePlan plan) = .ok plan.durable ∧
        ∀ records record, Journal.Says record .plan (encodePlan plan) →
          (collapse durable (records ++ [record])).1.find? plan.id = some plan.durable) := by
  have before : Sized (AllBundled (history ++ [operation])) (run (new config) history) :=
    run_sized observed_checked config history fun all raw member => all raw (List.mem_append_left _ member)
  have told := call_tells before writing fun all raw same valid =>
    all raw (by rw [same]; exact List.mem_append_right _ List.mem_cons_self) valid
  obtain ⟨written, grown, fits⟩ := told.asks.observed
  rw [← asked_elim, ← asked_elim] at grown
  refine ⟨written, grown, fun plan member => decodes_iff (fits plan member).1, ?_⟩
  intro all plan member
  have readable := (Plan.readable_iff plan).2 ⟨(fits plan member).1, (fits plan member).2 all⟩
  exact ⟨decodePlan_of_readable readable,
    fun records _ spelled => (collapse_last records spelled).1 readable⟩

/-- The solver is called for the wide fabric. -/
theorem appended_plans_read_iff_wideFabric :
    ∃ written : List Plan,
      ((run (new {}) (wideHistory (named "plan-1"))).call (.solve ⟨named "plan-1", Gen.first⟩)).2.asked =
        (run (new {}) (wideHistory (named "plan-1"))).asked ++ written.map encodePlan ∧
      (∀ plan ∈ written,
        (∃ read, decodePlan (encodePlan plan) = .ok read) ↔ plan.allocation.Narrow) ∧
      (AllBundled (wideHistory (named "plan-1") ++ [.solve ⟨named "plan-1", Gen.first⟩]) →
        ∀ plan ∈ written, decodePlan (encodePlan plan) = .ok plan.durable ∧
          ∀ records record, Journal.Says record .plan (encodePlan plan) →
            (collapse durable (records ++ [record])).1.find? plan.id = some plan.durable) :=
  appended_plans_read_iff {} (wideHistory (named "plan-1")) (.solve ⟨named "plan-1", Gen.first⟩) trivial

/-- The record the engine writes for the wide fabric's plan cannot be read, though the snapshot was
accepted and the solver found its answer feasible. -/
theorem wideFabric_record_unreadable :
    ∃ plan : Plan, ((run (new {}) (wideHistory (named "plan-1"))).call
        (.solve ⟨named "plan-1", Gen.first⟩)).2.asked =
          (run (new {}) (wideHistory (named "plan-1"))).asked ++ [encodePlan plan] ∧
      plan.state = .proposed ∧ ∀ read, decodePlan (encodePlan plan) ≠ .ok read := by
  have valid : (named "plan-1" : PlanId).valid = true := by decide +kernel
  generalize (named "plan-1" : PlanId) = id at valid
  obtain ⟨outcome, solved, feasible, entry, member, wide⟩ := solve_wideFabric
  have steady : wideEngine.Steady := by
    rw [wideEngine_eq]
    exact run_steady {} _
  obtain ⟨engine, same⟩ : ∃ engine, engine = run (new {}) (wideHistory id) := ⟨_, rfl⟩
  have called : engine = ((wideEngine.declare (linkRequest id none)).2.validate ⟨id, Gen.first⟩).2 := by
    rw [same, run_wideHistory]
  obtain ⟨plan, found, current, solves, live, key, pending, repository⟩ :=
    declared_solves steady (wide_declarable valid) rfl called
  have asked : engine.solveOptions plan.id = {} := by
    rw [key]
    unfold solveOptions
    rw [pending]
    rfl
  obtain ⟨counted, frame, -, answered⟩ :=
      @solve_eq _ engine ⟨id, Gen.first⟩ plan found current solves outcome (by
    rw [live, asked]
    exact solved)
  rw [← same]
  have sized : Sized False engine := by
    rw [same]
    exact run_sized observed_checked {} _ False.elim
  have result : (engine.call (.solve ⟨id, Gen.first⟩)).2 =
      (counted.record (engine.proposal plan outcome)
        (.ok (engine.proposal plan outcome) : Result Plan)).2 :=
    congrArg Prod.snd answered
  obtain ⟨first, wrote, -⟩ := writeAll_observed (boundedJournal 10, [])
    (wideEngine.declaredPlan (linkRequest id none))
  have attached : wideEngine.repository = some (boundedJournal 10, []) := rfl
  rw [attached, wrote] at repository
  obtain ⟨second, again, -⟩ := writeAll_observed first _
  rw [again] at repository
  obtain ⟨third, last, told⟩ := writeAll_observed second (engine.proposal plan outcome)
  have fits := sized.plans id plan found
  have bounded : (engine.proposal plan outcome).Bounded :=
    (proposal_fits sized solves.live (fits_moved fits .solving plan.applicability) (by
      rw [live]
      exact solved) _ _ _ _).1
  refine ⟨engine.proposal plan outcome, ?_, ?_, ?_⟩
  · rw [result, asked_elim, asked_elim, record_write]
    dsimp only
    rw [frame.repository, repository, last]
    exact told
  · unfold proposal solvedPlan
    rw [feasible]
  · intro read decoded
    have narrow := (decodes_iff bounded).1 ⟨read, decoded⟩
    exact absurd (narrow entry member) (not_le.2 wide)

end Engine

end TrafficFabric
