import TrafficFabric.Certificate
import TrafficFabric.Scoring

set_option autoImplicit false

namespace TrafficFabric

structure SolveOutcome where
  status : FeasibilityStatus := .feasible
  summary : Text := []
  allocation : Allocation := default
  feasibility : FeasibilityResult := default
  components : List ObjectiveComponent := []
  score : Int := 0
  alternatives : List RejectedAlternative := []
  notes : List Text := []
  policyExclusions : List Text := []
  iterations : Nat := 0
  allocationDigest : Digest := default
  verified : Bool := false
deriving DecidableEq, Inhabited

/-! The search for the tightest ceiling the relaxation admits. -/

/-- Bisection of the ceilings; zero when no probe was feasible. The first argument counts
the probes that are left. -/
def tightestCeiling (problem : Problem) : Nat → Int → Int → Int → Int
  | 0, _, _, best => best
  | probes + 1, low, high, best =>
      if low ≤ high then
        let mid := low + (high - low).tdiv 2
        let probe := certify problem mid
        if !probe.built then best
        else if probe.feasible then
          if mid = 1 then mid else tightestCeiling problem probes low (mid - 1) mid
        else tightestCeiling problem probes (mid + 1) high best
      else best

def cutConstraint (resource : ResourceId) (detail : Text) : BindingConstraint :=
  { kind := .minCutCertificate
    subject := text "resource/" ++ resource.str
    resource := resource
    detail := detail }

def capConstraint (policy : Policy) (certificate : Certificate) : BindingConstraint :=
  { kind := .policyUtilizationCap
    subject := text "policy/" ++ policy.id.str
    required := certificate.required
    available := certificate.achievable
    slack := certificate.achievable - certificate.required
    detail := text "a minimum cut proves the capped fabric cannot carry the declared minimums" }

def capSummary (policy : Policy) : Text :=
  text "the policy utilisation cap of " ++ decimal policy.maxUtilizationPermille ++
    text " permille makes the hard minimums unsatisfiable while they are satisfiable without the cap"

/-- An outcome that carries no allocation. -/
def refusal (derived : Derivation) (status : FeasibilityStatus) (summary : Text)
    (binding : List BindingConstraint) : SolveOutcome :=
  { status := status
    summary := summary
    feasibility := FeasibilityResult.canonicalizeBindings
      { status := status, summary := summary, binding := binding }
    policyExclusions := derived.policyExclusions }

/-- The early return of the utilisation search. -/
def searchRefusal (snapshot : FabricSnapshot) (derived : Derivation) (problem : Problem) :
    SolveOutcome :=
  let cap := snapshot.policy.maxUtilizationPermille
  let atCap := certify problem cap
  let withoutCap := certify problem 1000
  let policyIsTheCause := decide (cap < 1000) && withoutCap.built && withoutCap.feasible &&
    atCap.built && !atCap.feasible
  let cuts := atCap.saturatedResources.map fun resource =>
    cutConstraint resource (text "this resource is on the sink side of a minimum cut")
  if policyIsTheCause then
    refusal derived .infeasiblePolicy (capSummary snapshot.policy)
      (derived.constraints ++ [capConstraint snapshot.policy atCap] ++ cuts)
  else
    refusal derived .infeasibleCapacity
      (text "a minimum cut proves the declared hard minimums cannot be carried")
      (derived.constraints ++ cuts)

/-! Hard minimums. -/

/-- The problem with the counters that all runs share. -/
structure Run where
  problem : Problem
  iterations : Nat
  notes : List Text

/-- The resources of one path: stop at one with enough headroom, repair the others. -/
def repairAlong (demand : DemandId) (need : Int) (maxIterations : Nat) :
    List ResourceId → Bool → Run → Bool × Run
  | [], progressed, run => (progressed, run)
  | id :: rest, progressed, run =>
      match run.problem.resources.find? id with
      | none => repairAlong demand need maxIterations rest progressed run
      | some resource =>
          let headroom := resource.ceiling - resource.allocated
          if need ≤ headroom then (true, run)
          else
            let (cleared, note, repair) := repairResource ⟨run.problem, run.iterations⟩ demand id
              (need - headroom) maxIterations
            let notes := if cleared && !note.isEmpty then run.notes ++ [note] else run.notes
            repairAlong demand need maxIterations rest (progressed || cleared)
              ⟨repair.problem, repair.iterations, notes⟩

def repairPaths (demand : DemandId) (need : Int) (maxIterations : Nat) :
    List PathId → Run → Bool × Run
  | [], run => (false, run)
  | path :: rest, run =>
      let (progressed, repaired) := repairAlong demand need maxIterations
        (run.problem.pathOf path).resources false run
      if progressed then (true, repaired)
      else repairPaths demand need maxIterations rest repaired

def repairRounds (demand : DemandId) (preferred : List PathId) (maxIterations : Nat) :
    Nat → Run → Run
  | 0, run => run
  | rounds + 1, run =>
      let state := run.problem.demandOf demand
      if state.granted < state.derivation.floor ∧ run.iterations ≤ maxIterations then
        let (progressed, repaired) := repairPaths demand (state.derivation.floor - state.granted)
          maxIterations preferred run
        if !progressed then repaired
        else
          let after := repaired.problem.demandOf demand
          let placed := place repaired.problem demand preferred
            (after.derivation.floor - after.granted)
          repairRounds demand preferred maxIterations rounds { repaired with problem := placed.2 }
      else run

def placeMinimum (options : SolveOptions) (run : Run) (demand : DemandId) : Run :=
  let state := run.problem.demandOf demand
  if !state.exclusion.isEmpty then run
  else
    let preferred := orderPaths run.problem demand options
    let placed := place run.problem demand preferred state.derivation.floor
    repairRounds demand preferred options.maxIterations 4 { run with problem := placed.2 }

def runMinimums (options : SolveOptions) (order : List DemandId) (run : Run) : Run :=
  order.foldl (placeMinimum options) run

/-- The number of active demands whose hard floor was not placed. -/
def unmetFloors (problem : Problem) : Nat :=
  (problem.derivation.demands.filter fun demand =>
    let state := problem.demandOf demand.demand
    demand.active && state.exclusion.isEmpty && decide (state.granted < demand.floor)).length

/-- The bisection that widens a ceiling which defeated the construction. Every trial starts
from a fresh problem but shares the counters. -/
def widenCeiling (snapshot : FabricSnapshot) (derived : Derivation) (options : SolveOptions)
    (order : List DemandId) : Nat → Int → Int → Int → Nat → List Text → Int × Nat × List Text
  | 0, _, _, best, iterations, notes => (best, iterations, notes)
  | probes + 1, low, high, best, iterations, notes =>
      if low ≤ high then
        let mid := low + (high - low).tdiv 2
        let trial := runMinimums options order
          ⟨setCeiling (makeProblem snapshot derived) mid, iterations, notes⟩
        if unmetFloors trial.problem = 0 then
          if mid = low then (mid, trial.iterations, trial.notes)
          else widenCeiling snapshot derived options order probes low (mid - 1) mid
            trial.iterations trial.notes
        else widenCeiling snapshot derived options order probes (mid + 1) high best
          trial.iterations trial.notes
      else (best, iterations, notes)

/-- A run under the ceiling it was made with. -/
structure Construction where
  run : Run
  ceiling : Int

def constructMinimums (snapshot : FabricSnapshot) (derived : Derivation) (options : SolveOptions)
    (ceiling : Int) : Construction :=
  let order := canonicalProcessingOrder derived
  let cap := snapshot.policy.maxUtilizationPermille
  let first := runMinimums options order ⟨setCeiling (makeProblem snapshot derived) ceiling, 0, []⟩
  if 0 < unmetFloors first.problem ∧ hasTerm snapshot.objective.terms .minimizeMaxUtilization ∧
      ceiling < cap then
    let (found, iterations, notes) := widenCeiling snapshot derived options order
      Limits.maxMaxUtilizationProbes (ceiling + 1) cap 0 first.iterations first.notes
    let best := if found = 0 then cap else found
    let again := runMinimums options order
      ⟨setCeiling (makeProblem snapshot derived) best, iterations, notes⟩
    let widened :=
      if unmetFloors again.problem = 0 ∧ best ≠ ceiling then
        again.notes ++ [text "minimise_max_utilization widened the utilisation ceiling from " ++
          decimal ceiling ++ text " to " ++ decimal best ++
          text " permille so that the hard minimums could be constructed"]
      else again.notes
    ⟨{ again with notes := widened }, best⟩
  else ⟨first, ceiling⟩

/-! Soft targets and consolidation. -/

def fillOne (options : SolveOptions) (problem : Problem) (demand : DemandId) : Problem :=
  let state := problem.demandOf demand
  if !state.exclusion.isEmpty then problem
  else
    let target := min state.derivation.desired state.derivation.maximum
    if target ≤ state.granted then problem
    else (place problem demand (orderPaths problem demand options) (target - state.granted)).2

/-- One demand of each tenant in turn. -/
def fairOrder (problem : Problem) (order : List DemandId) : List DemandId :=
  let byTenant : OrdMap Text (List DemandId) := order.foldl (fun groups demand =>
    let tenant := (problem.demandOf demand).derivation.tenant.str
    groups.insert tenant ((groups.find? tenant).getD [] ++ [demand])) OrdMap.empty
  let rounds := byTenant.entries.foldl (fun rounds group => max rounds group.2.length) 0
  (List.range rounds).flatMap fun round =>
    byTenant.entries.filterMap fun group => group.2[round]?

def fillTargets (options : SolveOptions) (order : List DemandId) (problem : Problem) : Problem :=
  let sequence :=
    if hasTerm problem.terms .fairnessAcrossGroups then fairOrder problem order else order
  sequence.foldl (fillOne options) problem

def consolidateOne (options : SolveOptions) (problem : Problem) (demand : DemandId) : Problem :=
  if !(problem.demandOf demand).exclusion.isEmpty then problem
  else consolidatePaths problem demand (orderPaths problem demand options)

def consolidateAll (options : SolveOptions) (order : List DemandId) (problem : Problem) : Problem :=
  if hasTerm problem.terms .minimizePathCount then order.foldl (consolidateOne options) problem
  else problem

/-! The allocation. -/

/-- What the incumbent grants the demand on the path. -/
def incumbentShare (incumbent : Allocation) (demand : DemandId) (path : PathId) : Int :=
  match incumbent.findDemand demand with
  | none => 0
  | some entry =>
      match entry.shares.find? (fun share => share.path == path) with
      | none => 0
      | some share => share.granted

def shareOf (options : SolveOptions) (problem : Problem) (demand : DemandId)
    (share : PathId × Int) : PathShare :=
  let placed : PathShare :=
    { path := share.1
      generation := (problem.pathOf share.1).generation
      granted := share.2 }
  if options.hasIncumbent then
    let before := incumbentShare options.incumbent demand share.1
    { placed with
      deltaFromIncumbent := share.2 - before
      newlyUsed := decide (before = 0) }
  else placed

/-- Covers the shares with the reserved amount, in order. -/
def markReserved : Int → List PathShare → List PathShare
  | _, [] => []
  | remaining, share :: rest =>
      if remaining ≤ 0 then share :: rest
      else
        let taken := min remaining share.granted
        { share with reserved := taken } :: markReserved (remaining - taken) rest

def entryOf (options : SolveOptions) (problem : Problem) (demand : DemandDerivation) :
    DemandAllocation :=
  let state := problem.demandOf demand.demand
  let reserved := min state.reservationFloor state.granted
  { demand := demand.demand
    generation := demand.generation
    minimum := demand.minimum
    desired := demand.desired
    maximum := demand.maximum
    granted := state.granted
    reserved := reserved
    effective := state.granted
    shortfallAgainstMinimum :=
      if demand.active && decide (state.granted < demand.floor) then demand.floor - state.granted
      else 0
    shortfallAgainstDesired :=
      if demand.active && decide (state.granted < demand.desired) then
        demand.desired - state.granted
      else 0
    shares := markReserved (min reserved state.granted)
      ((state.shares.entries.filter fun share => decide (0 < share.2)).map
        (shareOf options problem demand.demand)) }

def utilizationOf (problem : Problem) (residual : ResourceResidual) : ResourceUtilization :=
  let allocated := ((problem.resources.find? residual.resource).getD default).allocated
  let headroom := residual.available - allocated
  let claimed := match addChecked residual.committedLoad residual.reserved with
    | some claimed => claimed
    | none => residual.usableCapacity
  { resource := residual.resource
    generation := residual.generation
    usableCapacity := residual.usableCapacity
    committedLoad := residual.committedLoad
    reserved := residual.reserved
    available := residual.available
    allocated := allocated
    headroom := headroom
    utilizationPermille := permille (satAdd claimed allocated) residual.usableCapacity
    saturated := decide (residual.available ≤ 0) || decide (headroom ≤ 0) }

def buildAllocation (options : SolveOptions) (problem : Problem) : Allocation :=
  let entries := problem.derivation.demands.map (entryOf options problem)
  { demands := stableSort DemandAllocation.demand entries
    resources := problem.derivation.residuals.map (utilizationOf problem)
    totalGranted := entries.foldl (fun total entry => satAdd total entry.granted) 0
    totalReserved := entries.foldl (fun total entry => satAdd total entry.reserved) 0 }

/-! Alternatives. -/

def alternativeOf (problem : Problem) (state : DemandState) (demand : DemandId) (path : PathId) :
    RejectedAlternative :=
  let facts := problem.pathOf path
  let headroom := pathHeadroom problem facts
  { subject := shareSubject demand path
    reason :=
      if headroom ≤ 0 then text "no residual capacity under the active utilisation ceiling"
      else if min state.derivation.desired state.derivation.maximum ≤ state.granted then
        text "demand already satisfied to its target on preferred paths"
      else text "not required: preferred paths absorbed the whole grant"
    delta := headroom
    alternativeScore := facts.cost }

/-- The paths of one demand that carry nothing, up to the bound on all alternatives. -/
def alternativesOf (problem : Problem) (options : SolveOptions) (recorded : Nat)
    (demand : DemandId) : List RejectedAlternative :=
  let state := problem.demandOf demand
  if !state.exclusion.isEmpty then []
  else
    (((orderPaths problem demand options).filter fun path =>
      !decide (0 < (state.shares.find? path).getD 0)).take
        (Limits.maxAlternatives - recorded)).map (alternativeOf problem state demand)

def collectAlternatives (problem : Problem) (options : SolveOptions) (order : List DemandId) :
    List RejectedAlternative :=
  stableSort RejectedAlternative.key (order.foldl (fun recorded demand =>
    recorded ++ alternativesOf problem options recorded.length demand) [])

/-! Status. -/

/-- Every floor placed, and whether policy removed a demand that declares one. -/
def floorsMet (problem : Problem) : Bool :=
  problem.derivation.demands.all fun demand =>
    let state := problem.demandOf demand.demand
    !demand.active || (if state.exclusion.isEmpty then decide (demand.floor ≤ state.granted)
      else decide (demand.floor ≤ 0))

def policyBlocked (problem : Problem) : Bool :=
  problem.derivation.demands.any fun demand =>
    demand.active && !(problem.demandOf demand.demand).exclusion.isEmpty &&
      decide (0 < demand.floor)

def unmetConstraints (problem : Problem) (detail : Text) : List BindingConstraint :=
  (problem.derivation.demands.filter fun demand => demand.active &&
      decide ((problem.demandOf demand.demand).granted < demand.floor)).map fun demand =>
    let granted := (problem.demandOf demand.demand).granted
    { kind := .demandMinimum
      subject := demandSubject demand.demand
      demand := demand.demand
      required := demand.floor
      available := granted
      slack := granted - demand.floor
      detail := detail }

structure Verdict where
  status : FeasibilityStatus
  summary : Text
  degraded : Bool
  binding : List BindingConstraint

/-- The branch taken when a certificate proves the shortfall. -/
def certifiedVerdict (policy : Policy) (problem : Problem) (certificate : Certificate) : Verdict :=
  let uncapped := certify problem 1000
  let policyIsTheCause := decide (policy.maxUtilizationPermille < 1000) && uncapped.built &&
    uncapped.feasible
  let fabric : BindingConstraint :=
    { kind := .minCutCertificate
      subject := text "fabric"
      required := certificate.required
      available := certificate.achievable
      slack := certificate.achievable - certificate.required
      detail := text "a minimum cut over the relaxed eligibility network proves the declared hard minimums cannot all be carried" }
  let cuts := fabric :: certificate.saturatedResources.map fun resource =>
    cutConstraint resource (text "resource on the sink side of a minimum cut")
  let unmet := unmetConstraints problem (text "the demand hard floor could not be placed")
  if certificate.onlyPathStarved then
    ⟨.infeasiblePathSet,
      text "at least one demand has no eligible candidate path under the current policy", true,
      cuts ++ unmet⟩
  else if policyIsTheCause then
    ⟨.infeasiblePolicy, capSummary policy, true,
      cuts ++ [capConstraint policy certificate] ++ unmet⟩
  else
    ⟨.infeasibleCapacity,
      text "the hard minimums cannot all be carried; a minimum cut certifies the shortfall", true,
      cuts ++ unmet⟩

def limitSummary : Text :=
  text "the bounded deterministic search could not place every hard floor and no minimum cut certificate proves the request infeasible; the request is neither accepted nor proven infeasible"

def boundedSearchUnmet (problem : Problem) : List BindingConstraint :=
  unmetConstraints problem
    (text "the demand hard floor could not be placed within the bounded search")

def verdictOf (policy : Policy) (options : SolveOptions) (problem : Problem)
    (reservationConflict : Bool) : Verdict :=
  if reservationConflict then
    ⟨.infeasibleReservationConflict,
      text "non-displaceable reservation obligations exceed the authoritative usable capacity of at least one resource",
      false, []⟩
  else if floorsMet problem then
    ⟨.feasible, text "every active demand was granted at least its hard floor", false, []⟩
  else if policyBlocked problem then
    ⟨.infeasiblePolicy,
      text "the active policy excludes at least one demand that declares a hard floor", true, []⟩
  else
    let certificate := certify problem policy.maxUtilizationPermille
    if certificate.built && !certificate.feasible then
      certifiedVerdict policy problem certificate
    else if options.allowDegraded && !policy.requireMinimums then
      ⟨.feasibleDegraded,
        text "the request is degraded: at least one hard floor could not be placed and policy permits a degraded result",
        true, boundedSearchUnmet problem⟩
    else
      ⟨.solverLimitReached, limitSummary, true,
        { kind := .structural, subject := text "solver", detail := limitSummary } ::
          boundedSearchUnmet problem⟩

/-! The outcome. -/

def tightenedNote (terms : List ObjectiveWeight) (cap ceiling : Int) : List Text :=
  if hasTerm terms .minimizeMaxUtilization && decide (ceiling ≠ cap) then
    [text "minimise_max_utilization tightened the utilisation ceiling from " ++ decimal cap ++
      text " to " ++ decimal ceiling ++ text " permille"]
  else []

/-- The outcome of a finished problem: verdict, score, and independent verification. -/
def conclude (snapshot : FabricSnapshot) (derived : Derivation) (options : SolveOptions)
    (problem : Problem) (iterations : Nat) (notes : List Text) (ceiling : Int)
    (reservationConflict : Bool) : SolveOutcome :=
  let verdict := verdictOf snapshot.policy options problem reservationConflict
  let allocation := { buildAllocation options problem with degraded := verdict.degraded }
  let scored := scoreFromMetrics snapshot.objective.terms
    (computeMetrics snapshot derived allocation options)
  let violations := verifyAllocation snapshot allocation
  let status := if violations.isEmpty then verdict.status else .conflictingInput
  let summary := if violations.isEmpty then verdict.summary
    else text "the constructed allocation failed independent verification and was not offered as a plan"
  { status := status
    summary := summary
    allocation := allocation
    feasibility := FeasibilityResult.canonicalizeBindings
      { status := status
        summary := summary
        binding := derived.constraints ++ verdict.binding ++ violations }
    components := scored.2
    score := scored.1
    alternatives := collectAlternatives problem options (canonicalProcessingOrder derived)
    notes := sortUnique id notes ++
      tightenedNote snapshot.objective.terms snapshot.policy.maxUtilizationPermille ceiling
    policyExclusions := derived.policyExclusions
    iterations := iterations
    allocationDigest := allocation.digest
    verified := violations.isEmpty }

/-- The problem after all phases under the given starting ceiling. -/
def constructed (snapshot : FabricSnapshot) (derived : Derivation) (options : SolveOptions)
    (ceiling : Int) : Problem :=
  let order := canonicalProcessingOrder derived
  consolidateAll options order
    (fillTargets options order (constructMinimums snapshot derived options ceiling).run.problem)

def plan (snapshot : FabricSnapshot) (derived : Derivation) (options : SolveOptions)
    (ceiling : Int) (reservationConflict : Bool) : SolveOutcome :=
  let minimums := constructMinimums snapshot derived options ceiling
  conclude snapshot derived options (constructed snapshot derived options ceiling)
    minimums.run.iterations minimums.run.notes minimums.ceiling reservationConflict

def reservationConflict (derived : Derivation) : Bool :=
  derived.constraints.any fun constraint => constraint.kind == .reservationObligation

/-- The outcome once the derivation is at hand. -/
def solveDerived (snapshot : FabricSnapshot) (derived : Derivation) (options : SolveOptions) :
    SolveOutcome :=
  match snapshot.objective.terms.find? fun term => decide (term.weight < 0) with
  | some term =>
      let summary := text "objective term " ++ term.term.toText ++
        text " declares a negative weight, which this solver does not support"
      { status := .unsupportedObjective
        summary := summary
        feasibility := { status := .unsupportedObjective, summary := summary } }
  | none =>
      let conflict := reservationConflict derived
      let cap := snapshot.policy.maxUtilizationPermille
      if !conflict && hasTerm snapshot.objective.terms .minimizeMaxUtilization then
        let problem := makeProblem snapshot derived
        let best := tightestCeiling problem Limits.maxMaxUtilizationProbes 1 cap 0
        if best = 0 then searchRefusal snapshot derived problem
        else plan snapshot derived options best conflict
      else plan snapshot derived options cap conflict

def solve (snapshot : FabricSnapshot) (options : SolveOptions) : Result SolveOutcome :=
  if options.maxIterations = 0 then
    fail .invalidArgument (text "the solver iteration budget must be positive")
  else
    match derive snapshot with
    | .error reason => .error reason
    | .ok derived => .ok (solveDerived snapshot derived options)

end TrafficFabric
