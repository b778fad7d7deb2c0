import TrafficFabric.Plan
import TrafficFabric.Reader

set_option autoImplicit false

/- The payload of a durable plan record. -/
namespace TrafficFabric

def durableFormatVersion : UInt16 := 1

/-- The value of an enumeration with the code, if it has one. -/
def ofCode {α κ : Type} [DecidableEq κ] (values : List α) (code : α → κ) (raw : κ) : Option α :=
  values.find? fun value => code value = raw

def PlanState.all : List PlanState :=
  [declared, validated, solving, proposed, authorized, committed, superseded, stale, degraded,
    rejected, retired]

def PlanApplicability.all : List PlanApplicability :=
  [notEvaluated, current, revalidationRequired, stale, superseded, retired]

def ObjectiveTerm.all : List ObjectiveTerm :=
  [satisfyMinimums, minimizeMaxUtilization, minimizeCongestionExposure, minimizeTotalPathCost,
    minimizeChurn, preserveReservations, preservePriority, maximizeDesiredBandwidth,
    fairnessAcrossGroups, minimizeFailureDomainConcentration, minimizePathCount]

def FeasibilityStatus.all : List FeasibilityStatus :=
  [feasible, feasibleDegraded, infeasibleCapacity, infeasiblePolicy, infeasiblePathSet,
    infeasibleReservationConflict, staleInput, conflictingInput, unsupportedObjective,
    solverLimitReached]

def ConstraintKind.all : List ConstraintKind :=
  [resourceCapacity, policyUtilizationCap, demandMinimum, demandMaximum, pathEligibility,
    forbiddenPath, pathAuthorityGeneration, reservationObligation, reservationPreemptionDenied,
    failureDomainDiversity, affinity, antiAffinity, tenantPolicy, serviceClassPolicy, latencyBound,
    pathCostCeiling, pathCountLimit, staleGeneration, unknownDemandReference, duplicateIdentity,
    missingProvenance, structural, minCutCertificate]

def ChurnDecision.all : List ChurnDecision := [noIncumbent, accept, holdIncumbent, rejectRegression]

/-! Encoding. -/

namespace Writer

def boot (boot : BootId) : List UInt8 := boot.bytes.toList

def ref {id : IdKind} {generation : GenKind} (ref : Ref id generation) : List UInt8 :=
  str ref.id.str ++ u64 ref.generation.value

/-- The full vector, so that a restored plan can be compared field by field. -/
def authority (authority : AuthorityVector) : List UInt8 :=
  u64 authority.fabricEpoch.value ++ u64 authority.topologyGeneration.value ++
    u64 authority.linkStateGeneration.value ++ u64 authority.pathAuthorityGeneration.value ++
    u64 authority.failureDomainGeneration.value ++ ref authority.capacity ++
    ref authority.reservations ++ ref authority.policy ++ ref authority.objective ++
    ref authority.candidateSet ++ digest authority.demandSetDigest ++
    digest authority.candidateSetDigest ++ digest authority.resourceCatalogDigest ++
    digest authority.reservationSetDigest ++ digest authority.policyDigest ++
    digest authority.objectiveDigest

def component (component : ObjectiveComponent) : List UInt8 :=
  u16 component.term.code ++ i64 component.weight ++ i64 component.raw ++ i64 component.weighted

def alternative (alternative : RejectedAlternative) : List UInt8 :=
  str alternative.subject ++ str alternative.reason ++ i64 alternative.delta

def constraint (constraint : BindingConstraint) : List UInt8 :=
  u16 constraint.kind.code.toUInt16 ++ str constraint.subject ++ str constraint.demand.str ++
    str constraint.resource.str ++ str constraint.path.str ++ i64 constraint.required ++
    i64 constraint.available ++ i64 constraint.slack ++ str constraint.detail

def pathShare (share : PathShare) : List UInt8 :=
  str share.path.str ++ u64 share.generation.value ++ i64 share.minimum ++ i64 share.desired ++
    i64 share.granted ++ i64 share.reserved ++ i64 share.deltaFromIncumbent ++
    boolean share.newlyUsed

def demandAllocation (demand : DemandAllocation) : List UInt8 :=
  str demand.demand.str ++ u64 demand.generation.value ++ i64 demand.minimum ++
    i64 demand.desired ++ i64 demand.maximum ++ i64 demand.granted ++ i64 demand.reserved ++
    i64 demand.effective ++ i64 demand.observedApplied ++ boolean demand.appliedKnown ++
    i64 demand.shortfallAgainstMinimum ++ i64 demand.shortfallAgainstDesired ++
    sequence pathShare demand.shares

def resourceUtilization (resource : ResourceUtilization) : List UInt8 :=
  str resource.resource.str ++ u64 resource.generation.value ++ i64 resource.usableCapacity ++
    i64 resource.committedLoad ++ i64 resource.reserved ++ i64 resource.available ++
    i64 resource.allocated ++ i64 resource.headroom ++ i64 resource.utilizationPermille ++
    boolean resource.saturated

def allocation (allocation : Allocation) : List UInt8 :=
  sequence demandAllocation allocation.demands ++
    sequence resourceUtilization allocation.resources ++ i64 allocation.totalGranted ++
    i64 allocation.totalReserved ++ boolean allocation.degraded

/-- The summary comes before the status. -/
def feasibility (feasibility : FeasibilityResult) : List UInt8 :=
  str feasibility.summary ++ u16 feasibility.status.code ++ sequence constraint feasibility.binding

def churn (churn : ChurnReport) : List UInt8 :=
  u8 churn.decision.code ++ i64 churn.incumbentScore ++ i64 churn.proposalScore ++
    i64 churn.improvementPermille ++ i64 churn.movedBandwidth ++ i64 churn.movedPermille ++
    u32 churn.demandsChanged ++ u32 churn.pathsAdded ++ u32 churn.pathsRemoved ++
    u32 churn.failureDomainsChanged ++ i64 churn.operationalRiskPermille ++ str churn.rationale

/-- The fields up to the authority vector. -/
def planBinding (plan : Plan) : List UInt8 :=
  u16 durableFormatVersion ++ str plan.id.str ++ u64 plan.generation.value ++
    u16 plan.state.code ++ u16 plan.applicability.code ++ str plan.attempt.str ++
    u64 plan.attemptGeneration.value ++ str plan.publisher.str ++ boot plan.publisherBoot ++
    u64 plan.coordinatorIncarnation.value ++ authority plan.authority

/-- The fields from the lineage on. -/
def planLineage (plan : Plan) : List UInt8 :=
  ref plan.supersedes ++ ref plan.supersededBy ++ str plan.commit.str ++
    u64 plan.commitGeneration.value ++ u64 plan.committedTick ++ u64 plan.declaredTick ++
    u64 plan.proposedTick

end Writer

open Writer in
def encodePlan (plan : Plan) : List UInt8 :=
  planBinding plan ++ sequence component plan.components ++
    sequence alternative plan.alternatives ++ feasibility plan.feasibility ++
    allocation plan.allocation ++ churn plan.churn ++ i64 plan.objectiveScore ++
    str plan.explanation.str ++ Writer.digest plan.explanationDigest ++ planLineage plan

/-! Decoding. -/

namespace PlanCodec

open Reader (u8 u16 u32 u64 i64 boolean str digest raw)

/-- A required identity: read, then parsed. -/
def requiredId {kind : IdKind} (malformed invalid : String) : Decoding (Id kind) := do
  let name ← need (str Limits.maxNameLength) .malformedInput malformed
  parsed (Id.parse name) .malformedInput invalid

/-- An identity that may be absent. -/
def optionalId {kind : IdKind} (malformed invalid : String) : Decoding (Id kind) := do
  let name ← need (str Limits.maxNameLength) .malformedInput malformed
  if name.isEmpty then pure default else parsed (Id.parse name) .malformedInput invalid

def requiredGen {kind : GenKind} (truncated zero : String) : Decoding (Gen kind) := do
  let value ← need u64 .truncatedInput truncated
  parsed (Gen.parse value) .invalidGeneration zero

/-- A generation that counts only when the identity before it is present. -/
def optionalGen {kind : GenKind} (present : Bool) (truncated zero : String) : Decoding (Gen kind) := do
  let value ← need u64 .truncatedInput truncated
  if present then parsed (Gen.parse value) .invalidGeneration zero else pure default

def boundedText (malformed : String) : Decoding Text :=
  need (str Limits.maxTextLength) .malformedInput malformed

/-- `read_authority` has one message for every failure. -/
def authorityFailure : String := "the plan authority vector is malformed"

def authorityGen {kind : GenKind} : Decoding (Gen kind) := do
  let value ← need u64 .malformedInput authorityFailure
  parsed (Gen.parse value) .malformedInput authorityFailure

/-- Both fields are read before either is parsed. -/
def authorityRef {id : IdKind} {generation : GenKind} : Decoding (Ref id generation) := do
  let name ← need (str Limits.maxNameLength) .malformedInput authorityFailure
  let value ← need u64 .malformedInput authorityFailure
  let id ← parsed (Id.parse name) .malformedInput authorityFailure
  let generation ← parsed (Gen.parse value) .malformedInput authorityFailure
  pure ⟨id, generation⟩

def authorityDigest : Decoding Digest := need digest .malformedInput authorityFailure

def readAuthority : Decoding AuthorityVector := do
  let fabricEpoch ← authorityGen
  let topologyGeneration ← authorityGen
  let linkStateGeneration ← authorityGen
  let pathAuthorityGeneration ← authorityGen
  let failureDomainGeneration ← authorityGen
  let capacity ← authorityRef
  let reservations ← authorityRef
  let policy ← authorityRef
  let objective ← authorityRef
  let candidateSet ← authorityRef
  let demandSetDigest ← authorityDigest
  let candidateSetDigest ← authorityDigest
  let resourceCatalogDigest ← authorityDigest
  let reservationSetDigest ← authorityDigest
  let policyDigest ← authorityDigest
  let objectiveDigest ← authorityDigest
  pure
    { fabricEpoch := fabricEpoch
      topologyGeneration := topologyGeneration
      linkStateGeneration := linkStateGeneration
      pathAuthorityGeneration := pathAuthorityGeneration
      failureDomainGeneration := failureDomainGeneration
      capacity := capacity
      reservations := reservations
      policy := policy
      objective := objective
      candidateSet := candidateSet
      demandSetDigest := demandSetDigest
      candidateSetDigest := candidateSetDigest
      resourceCatalogDigest := resourceCatalogDigest
      reservationSetDigest := reservationSetDigest
      policyDigest := policyDigest
      objectiveDigest := objectiveDigest }

/-- A count, its bound and then that many elements. -/
def bounded {α : Type} (limit : Nat) (truncated oversized : String) (element : Decoding α) :
    Decoding (List α) := do
  let count ← need u32 .truncatedInput truncated
  refuse (limit < count.toNat) .oversizedInput oversized
  element.repeated count.toNat

def readComponent : Decoding ObjectiveComponent := do
  let code ← need u16 .truncatedInput "objective term is truncated"
  let term ← parsed (ofCode ObjectiveTerm.all ObjectiveTerm.code code) .malformedInput
    "objective term is out of range"
  let weight ← need i64 .truncatedInput "objective weight is truncated"
  let raw ← need i64 .truncatedInput "objective raw value is truncated"
  let weighted ← need i64 .truncatedInput "objective weighted value is truncated"
  pure
    { term := term
      weight := weight
      raw := raw
      weighted := weighted
      unit := term.toText }

def readAlternative : Decoding RejectedAlternative := do
  let subject ← boundedText "alternative entry is malformed"
  let reason ← boundedText "alternative entry is malformed"
  let delta ← need i64 .truncatedInput "alternative delta is truncated"
  pure
    { subject := subject
      reason := reason
      delta := delta }

def readConstraint : Decoding BindingConstraint := do
  let code ← need u16 .truncatedInput "constraint kind is truncated"
  let kind ← parsed (ofCode ConstraintKind.all (fun kind => kind.code.toUInt16) code) .malformedInput
    "constraint kind is out of range"
  let subject ← boundedText "constraint subject is malformed"
  let demand ← optionalId "constraint demand is malformed" "constraint demand id is invalid"
  let resource ← optionalId "constraint resource is malformed" "constraint resource id is invalid"
  let path ← optionalId "constraint path is malformed" "constraint path id is invalid"
  let required ← need i64 .truncatedInput "constraint required is truncated"
  let available ← need i64 .truncatedInput "constraint available is truncated"
  let slack ← need i64 .truncatedInput "constraint slack is truncated"
  let detail ← boundedText "constraint detail is malformed"
  pure
    { kind := kind
      subject := subject
      demand := demand
      resource := resource
      path := path
      required := required
      available := available
      slack := slack
      detail := detail }

def readFeasibility : Decoding FeasibilityResult := do
  let summary ← boundedText "feasibility summary is malformed"
  let code ← need u16 .truncatedInput "feasibility status is truncated"
  let status ← parsed (ofCode FeasibilityStatus.all FeasibilityStatus.code code) .malformedInput
    "feasibility status is out of range"
  let binding ← bounded Limits.maxExplanationEntries "binding constraint count is truncated"
    "binding constraint count exceeds the bound" readConstraint
  pure
    { status := status
      summary := summary
      binding := binding }

def readPathShare : Decoding PathShare := do
  let path ← requiredId "path share id is malformed" "path share id is invalid"
  let generation ← requiredGen "path share generation is truncated" "path share generation is zero"
  let quantity := need i64 .truncatedInput "path share quantities are truncated"
  let minimum ← quantity
  let desired ← quantity
  let granted ← quantity
  let reserved ← quantity
  let deltaFromIncumbent ← quantity
  let newlyUsed ← need boolean .truncatedInput "path share flag is truncated"
  pure
    { path := path
      generation := generation
      minimum := minimum
      desired := desired
      granted := granted
      reserved := reserved
      deltaFromIncumbent := deltaFromIncumbent
      newlyUsed := newlyUsed }

def readDemandAllocation : Decoding DemandAllocation := do
  let demand ← requiredId "allocation demand id is malformed" "allocation demand id is invalid"
  let generation ← requiredGen "allocation demand generation is truncated"
    "allocation demand generation is zero"
  let quantity := need i64 .truncatedInput "allocation demand quantities are truncated"
  let minimum ← quantity
  let desired ← quantity
  let maximum ← quantity
  let granted ← quantity
  let reserved ← quantity
  let effective ← quantity
  let observedApplied ← quantity
  let appliedKnown ← need boolean .truncatedInput "allocation applied flag is truncated"
  let shortfallAgainstMinimum ← need i64 .truncatedInput "allocation shortfalls are truncated"
  let shortfallAgainstDesired ← need i64 .truncatedInput "allocation shortfalls are truncated"
  let shares ← bounded Limits.maxPathsPerDemand "path share count is truncated"
    "path share count exceeds the bound" readPathShare
  pure
    { demand := demand
      generation := generation
      minimum := minimum
      desired := desired
      maximum := maximum
      granted := granted
      reserved := reserved
      effective := effective
      observedApplied := observedApplied
      appliedKnown := appliedKnown
      shortfallAgainstMinimum := shortfallAgainstMinimum
      shortfallAgainstDesired := shortfallAgainstDesired
      shares := shares }

def readResourceUtilization : Decoding ResourceUtilization := do
  let resource ← requiredId "allocation resource id is malformed" "allocation resource id is invalid"
  let generation ← requiredGen "allocation resource generation is truncated"
    "allocation resource generation is zero"
  let quantity := need i64 .truncatedInput "allocation resource quantities are truncated"
  let usableCapacity ← quantity
  let committedLoad ← quantity
  let reserved ← quantity
  let available ← quantity
  let allocated ← quantity
  let headroom ← quantity
  let utilizationPermille ← quantity
  let saturated ← need boolean .truncatedInput "allocation resource flag is truncated"
  pure
    { resource := resource
      generation := generation
      usableCapacity := usableCapacity
      committedLoad := committedLoad
      reserved := reserved
      available := available
      allocated := allocated
      headroom := headroom
      utilizationPermille := utilizationPermille
      saturated := saturated }

def readAllocation : Decoding Allocation := do
  let demands ← bounded Limits.maxDemands "allocation demand count is truncated"
    "allocation demand count exceeds the bound" readDemandAllocation
  let resources ← bounded Limits.maxResources "allocation resource count is truncated"
    "allocation resource count exceeds the bound" readResourceUtilization
  let totalGranted ← need i64 .truncatedInput "allocation totals are truncated"
  let totalReserved ← need i64 .truncatedInput "allocation totals are truncated"
  let degraded ← need boolean .truncatedInput "allocation degraded flag is truncated"
  pure
    { demands := demands
      resources := resources
      totalGranted := totalGranted
      totalReserved := totalReserved
      degraded := degraded }

def readChurn : Decoding ChurnReport := do
  let code ← need u8 .truncatedInput "churn decision is truncated"
  let decision ← parsed (ofCode ChurnDecision.all ChurnDecision.code code) .malformedInput
    "churn decision is out of range"
  let quantity := need i64 .truncatedInput "churn quantities are truncated"
  let incumbentScore ← quantity
  let proposalScore ← quantity
  let improvementPermille ← quantity
  let movedBandwidth ← quantity
  let movedPermille ← quantity
  let counter := need u32 .truncatedInput "churn counters are truncated"
  let demandsChanged ← counter
  let pathsAdded ← counter
  let pathsRemoved ← counter
  let failureDomainsChanged ← counter
  let operationalRiskPermille ← need i64 .truncatedInput "churn risk is truncated"
  let rationale ← boundedText "churn rationale is malformed"
  pure
    { decision := decision
      incumbentScore := incumbentScore
      proposalScore := proposalScore
      improvementPermille := improvementPermille
      movedBandwidth := movedBandwidth
      movedPermille := movedPermille
      demandsChanged := demandsChanged
      pathsAdded := pathsAdded
      pathsRemoved := pathsRemoved
      failureDomainsChanged := failureDomainsChanged
      operationalRiskPermille := operationalRiskPermille
      rationale := rationale }

/-- The fields up to the authority vector; the others keep their defaults. -/
def readPlanBinding : Decoding Plan := do
  let version ← need u16 .truncatedInput "plan record version is truncated"
  refuse (version != durableFormatVersion) .unsupportedVersion "unsupported plan record version"
  let id ← requiredId "plan id is malformed" "plan id is invalid"
  let generation ← requiredGen "plan generation is truncated" "plan generation is zero"
  let stateCode ← need u16 .truncatedInput "plan state is truncated"
  let applicabilityCode ← need u16 .truncatedInput "plan applicability is truncated"
  let state ← parsed (ofCode PlanState.all PlanState.code stateCode) .malformedInput
    "plan state is out of range"
  let applicability ← parsed
    (ofCode PlanApplicability.all PlanApplicability.code applicabilityCode) .malformedInput
    "plan applicability is out of range"
  let attempt ← requiredId "attempt id is malformed" "attempt id is invalid"
  let attemptGeneration ← requiredGen "attempt generation is truncated" "attempt generation is zero"
  let publisher ← requiredId "publisher id is malformed" "publisher id is invalid"
  let bootBytes ← need (raw 16) .truncatedInput "publisher boot id is truncated"
  let publisherBoot : BootId := ⟨Vector.ofFn fun i : Fin 16 => bootBytes.getD i.val 0⟩
  refuse (!publisherBoot.valid) .malformedInput "publisher boot id is not a valid incarnation"
  let coordinatorIncarnation ← requiredGen "coordinator incarnation is truncated"
    "coordinator incarnation is zero"
  let authority ← readAuthority
  refuse (!authority.valid) .invalidGeneration "the plan authority vector is incomplete"
  pure
    { id := id
      generation := generation
      state := state
      applicability := applicability
      attempt := attempt
      attemptGeneration := attemptGeneration
      publisher := publisher
      publisherBoot := publisherBoot
      coordinatorIncarnation := coordinatorIncarnation
      authority := authority }

def readPlanLineage (plan : Plan) : Decoding Plan := do
  let supersedes ← optionalId "supersedes id is malformed" "supersedes id is invalid"
  let supersedesGeneration ← optionalGen supersedes.valid "supersedes generation is truncated"
    "supersedes generation is zero"
  let superseded ← optionalId "superseded-by id is malformed" "superseded-by id is invalid"
  let supersededGeneration ← optionalGen superseded.valid "superseded-by generation is truncated"
    "superseded-by generation is zero"
  let commit ← optionalId "commit id is malformed" "commit id is invalid"
  let commitGeneration ← optionalGen commit.valid "commit generation is truncated"
    "commit generation is zero"
  let tick := need u64 .truncatedInput "plan ticks are truncated"
  let committedTick ← tick
  let declaredTick ← tick
  let proposedTick ← tick
  pure { plan with
    supersedes := ⟨supersedes, supersedesGeneration⟩
    supersededBy := ⟨superseded, supersededGeneration⟩
    commit := commit
    commitGeneration := commitGeneration
    committedTick := committedTick
    declaredTick := declaredTick
    proposedTick := proposedTick }

def readPlan : Decoding Plan := do
  let plan ← readPlanBinding
  let components ← bounded 16 "objective component count is truncated"
    "objective component count exceeds the bound" readComponent
  let alternatives ← bounded Limits.maxAlternatives "alternative count is truncated"
    "alternative count exceeds the bound" readAlternative
  let feasibility ← readFeasibility
  let allocation ← readAllocation
  let churn ← readChurn
  let objectiveScore ← need i64 .truncatedInput "objective score is truncated"
  let explanation ← optionalId "explanation id is malformed" "explanation id is invalid"
  let explanationDigest ← need digest .truncatedInput "explanation digest is truncated"
  readPlanLineage { plan with
    components := components
    alternatives := alternatives
    feasibility := feasibility
    allocation := allocation
    churn := churn
    objectiveScore := objectiveScore
    explanation := explanation
    explanationDigest := explanationDigest }

end PlanCodec

/-- A whole payload: the record and nothing behind it. -/
def decodeWhole {α : Type} (decoder : Decoding α) (trailing : String) (payload : List UInt8) :
    Result α :=
  match decoder payload with
  | .error reason => .error reason
  | .ok (value, rest) => if rest.isEmpty then .ok value else fail .trailingInput (text trailing)

def decodePlan (payload : List UInt8) : Result Plan :=
  decodeWhole PlanCodec.readPlan "plan record has trailing bytes" payload

end TrafficFabric
