import TrafficFabric.Plan

set_option autoImplicit false

namespace TrafficFabric

structure Explanation where
  id : ExplanationId := default
  plan : PlanRef := default
  state : PlanState := .declared
  applicability : PlanApplicability := .notEvaluated
  authority : AuthorityVector := default
  objective : ObjectiveProfileRef := default
  feasibility : FeasibilityResult := default
  components : List ObjectiveComponent := []
  totalScore : Int := 0
  bindingConstraints : List BindingConstraint := []
  saturatedResources : List ResourceUtilization := []
  allocations : List DemandAllocation := []
  policyExclusions : List Text := []
  alternatives : List RejectedAlternative := []
  churn : ChurnReport := default
  notes : List Text := []
  truncated : Bool := false
  omittedBindingConstraints : Nat := 0
  omittedAlternatives : Nat := 0
  omittedAllocations : Nat := 0
deriving DecidableEq, Inhabited

open Writer in
def Explanation.digest (explanation : Explanation) : Digest :=
  digestWithDomain (text "tef.explanation.v1")
    (str explanation.id.str ++ str explanation.plan.id.str ++ u64 explanation.plan.generation.value ++
      u16 explanation.state.code ++ u16 explanation.applicability.code ++
      Writer.digest explanation.authority.digest ++ str explanation.objective.id.str ++
      u64 explanation.objective.generation.value ++ u16 explanation.feasibility.status.code ++
      str explanation.feasibility.summary ++ i64 explanation.totalScore ++
      sequence (fun component : ObjectiveComponent => u16 component.term.code ++
        i64 component.weight ++ i64 component.raw ++ i64 component.weighted)
        explanation.components ++
      sequence (fun constraint : BindingConstraint => u16 constraint.kind.code.toUInt16 ++
        str constraint.subject ++ i64 constraint.required ++ i64 constraint.available)
        explanation.bindingConstraints ++
      sequence (fun resource : ResourceUtilization => str resource.resource.str ++
        i64 resource.utilizationPermille ++ i64 resource.allocated)
        explanation.saturatedResources ++
      sequence (fun entry : DemandAllocation => str entry.demand.str ++ i64 entry.minimum ++
        i64 entry.desired ++ i64 entry.granted ++ i64 entry.reserved ++
        sequence (fun share : PathShare => str share.path.str ++ i64 share.granted) entry.shares)
        explanation.allocations ++
      strings explanation.policyExclusions ++
      sequence (fun alternative : RejectedAlternative => str alternative.subject ++
        str alternative.reason ++ i64 alternative.delta) explanation.alternatives ++
      u8 explanation.churn.decision.code ++ str explanation.churn.rationale ++
      strings explanation.notes ++ boolean explanation.truncated)

/-- What the loop over the demands' notes carries. -/
structure NoteScan where
  constraints : List BindingConstraint
  truncated : Bool
  omitted : Nat

/-- The notes of one demand. The loop over them is left at the first note that does not
fit, so a demand counts one omission at most. -/
def addNotes (scan : NoteScan) (notes : List BindingConstraint) : NoteScan :=
  let room := Limits.maxExplanationEntries - scan.constraints.length
  if notes.length ≤ room then { scan with constraints := scan.constraints ++ notes }
  else
    { constraints := scan.constraints ++ notes.take room
      truncated := true
      omitted := scan.omitted + 1 }

/-- What the derivation adds: exclusions, and the demands' notes merged into the
constraints. -/
def explainDerivation (sort : List BindingConstraint → List BindingConstraint) (derived : Derivation)
    (explanation : Explanation) : Explanation :=
  let scan := (derived.demands.map DemandDerivation.notes).foldl addNotes
    { constraints := explanation.bindingConstraints
      truncated := explanation.truncated
      omitted := explanation.omittedBindingConstraints }
  let constraints := sortConstraintsBy sort scan.constraints
  { explanation with
    policyExclusions := derived.policyExclusions
    bindingConstraints := constraints.take Limits.maxExplanationEntries
    truncated := scan.truncated || decide (Limits.maxExplanationEntries < constraints.length)
    omittedBindingConstraints := scan.omitted }

def churnNotes (churn : ChurnReport) : List Text :=
  if churn.decision = .noIncumbent then []
  else (text "churn decision: " ++ churn.decision.toText) ::
    (if churn.rationale.isEmpty then [] else [churn.rationale])

def lineageNotes (plan : Plan) : List Text :=
  (if plan.supersedes.id.valid then
    [text "supersedes plan " ++ plan.supersedes.id.str ++ text " generation " ++
      decimal plan.supersedes.generation.value.toNat] else []) ++
  (if plan.supersededBy.id.valid then
    [text "superseded by plan " ++ plan.supersededBy.id.str ++ text " generation " ++
      decimal plan.supersededBy.generation.value.toNat] else [])

def statusNotes (plan : Plan) : List Text :=
  (if plan.state = .stale then
    [text "the plan is stale: a material bound input advanced after commit"] else []) ++
  (if plan.applicability = .revalidationRequired then
    [text "the plan was restored from durable storage and must be revalidated against the live authority before it is treated as current"]
    else [])

def buildExplanationBy (sort : List BindingConstraint → List BindingConstraint) (plan : Plan)
    (snapshot : FabricSnapshot) : Explanation :=
  let budget := Limits.maxExplanationEntries
  let base : Explanation :=
    { plan := plan.ref
      state := plan.state
      applicability := plan.applicability
      authority := plan.authority
      objective := plan.authority.objective
      feasibility := plan.feasibility
      churn := plan.churn
      totalScore := plan.objectiveScore
      components := (scoreAllocation snapshot plan.allocation).2
      bindingConstraints := plan.feasibility.binding.take budget
      omittedBindingConstraints := plan.feasibility.binding.length - budget
      saturatedResources := plan.allocation.resources.filter ResourceUtilization.saturated
      allocations := plan.allocation.demands.take budget
      omittedAllocations := plan.allocation.demands.length - budget
      truncated := decide (budget < plan.feasibility.binding.length) ||
        decide (budget < plan.allocation.demands.length) }
  let derived := match derive snapshot with
    | .error _ => base
    | .ok derived => explainDerivation sort derived base
  let notes := churnNotes plan.churn ++ lineageNotes plan ++ statusNotes plan ++
    derived.policyExclusions
  { derived with
    alternatives := plan.alternatives.take Limits.maxAlternatives
    omittedAlternatives := plan.alternatives.length - Limits.maxAlternatives
    notes := notes.take budget
    truncated := derived.truncated ||
      decide (Limits.maxAlternatives < plan.alternatives.length) || decide (budget < notes.length)
    id := (Id.parse (text "explain-" ++ plan.id.str ++ text "-g" ++
      decimal plan.generation.value.toNat)).getD Id.none }

def buildExplanation (plan : Plan) (snapshot : FabricSnapshot) : Explanation :=
  buildExplanationBy (stableSort BindingConstraint.key) plan snapshot

end TrafficFabric
