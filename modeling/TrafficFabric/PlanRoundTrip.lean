import TrafficFabric.PlanCodec

set_option autoImplicit false

/- What a plan record gives back. The quantities of the source are 64-bit integers, so they
are read back as such; the fields that are not written come back as their defaults. -/
namespace TrafficFabric

open Writer (sequence)

/-! What is read back. -/

def ObjectiveComponent.durable (component : ObjectiveComponent) : ObjectiveComponent :=
  { term := component.term
    weight := wrap64 component.weight
    raw := wrap64 component.raw
    weighted := wrap64 component.weighted
    unit := component.term.toText }

def RejectedAlternative.durable (alternative : RejectedAlternative) : RejectedAlternative :=
  { subject := alternative.subject
    reason := alternative.reason
    delta := wrap64 alternative.delta }

def BindingConstraint.durable (constraint : BindingConstraint) : BindingConstraint :=
  { constraint with
    required := wrap64 constraint.required
    available := wrap64 constraint.available
    slack := wrap64 constraint.slack }

def FeasibilityResult.durable (feasibility : FeasibilityResult) : FeasibilityResult :=
  { status := feasibility.status
    summary := feasibility.summary
    binding := feasibility.binding.map BindingConstraint.durable }

def PathShare.durable (share : PathShare) : PathShare :=
  { share with
    minimum := wrap64 share.minimum
    desired := wrap64 share.desired
    granted := wrap64 share.granted
    reserved := wrap64 share.reserved
    deltaFromIncumbent := wrap64 share.deltaFromIncumbent }

def DemandAllocation.durable (demand : DemandAllocation) : DemandAllocation :=
  { demand with
    minimum := wrap64 demand.minimum
    desired := wrap64 demand.desired
    maximum := wrap64 demand.maximum
    granted := wrap64 demand.granted
    reserved := wrap64 demand.reserved
    effective := wrap64 demand.effective
    observedApplied := wrap64 demand.observedApplied
    shortfallAgainstMinimum := wrap64 demand.shortfallAgainstMinimum
    shortfallAgainstDesired := wrap64 demand.shortfallAgainstDesired
    shares := demand.shares.map PathShare.durable }

def ResourceUtilization.durable (resource : ResourceUtilization) : ResourceUtilization :=
  { resource with
    usableCapacity := wrap64 resource.usableCapacity
    committedLoad := wrap64 resource.committedLoad
    reserved := wrap64 resource.reserved
    available := wrap64 resource.available
    allocated := wrap64 resource.allocated
    headroom := wrap64 resource.headroom
    utilizationPermille := wrap64 resource.utilizationPermille }

/-- The allocation with every quantity as the 64-bit integer the source holds. -/
def Allocation.durable (allocation : Allocation) : Allocation :=
  { allocation with
    demands := allocation.demands.map DemandAllocation.durable
    resources := allocation.resources.map ResourceUtilization.durable
    totalGranted := wrap64 allocation.totalGranted
    totalReserved := wrap64 allocation.totalReserved }

def ChurnReport.durable (churn : ChurnReport) : ChurnReport :=
  { decision := churn.decision
    incumbentScore := wrap64 churn.incumbentScore
    proposalScore := wrap64 churn.proposalScore
    improvementPermille := wrap64 churn.improvementPermille
    movedBandwidth := wrap64 churn.movedBandwidth
    movedPermille := wrap64 churn.movedPermille
    demandsChanged := churn.demandsChanged
    pathsAdded := churn.pathsAdded
    pathsRemoved := churn.pathsRemoved
    failureDomainsChanged := churn.failureDomainsChanged
    operationalRiskPermille := wrap64 churn.operationalRiskPermille
    rationale := churn.rationale }

/-- The generation of an absent identity is not read back. -/
def Ref.durable {id : IdKind} {generation : GenKind} (ref : Ref id generation) : Ref id generation :=
  ⟨ref.id, if ref.id.valid then ref.generation else default⟩

def Plan.durable (plan : Plan) : Plan :=
  { plan with
    allocation := plan.allocation.durable
    feasibility := plan.feasibility.durable
    churn := plan.churn.durable
    objectiveScore := wrap64 plan.objectiveScore
    components := plan.components.map ObjectiveComponent.durable
    alternatives := plan.alternatives.map RejectedAlternative.durable
    supersedes := plan.supersedes.durable
    supersededBy := plan.supersededBy.durable
    commitGeneration := if plan.commit.valid then plan.commitGeneration else default }

/-- Every length a record spells out fits its 32-bit count. -/
structure FitsRecord (plan : Plan) : Prop where
  components : FitsCount plan.components.length
  alternatives : FitsCount plan.alternatives.length
  texts : ∀ alternative ∈ plan.alternatives,
    FitsCount alternative.subject.length ∧ FitsCount alternative.reason.length
  summary : FitsCount plan.feasibility.summary.length
  binding : FitsCount plan.feasibility.binding.length
  details : ∀ constraint ∈ plan.feasibility.binding,
    FitsCount constraint.subject.length ∧ FitsCount constraint.detail.length
  demands : FitsCount plan.allocation.demands.length
  shares : ∀ demand ∈ plan.allocation.demands, FitsCount demand.shares.length
  resources : FitsCount plan.allocation.resources.length
  rationale : FitsCount plan.churn.rationale.length

namespace PlanCodec

open Reader (u8_reads u16_reads u32_reads u64_reads i64_reads boolean_reads str_reads digest_reads)

/-! Fields. -/

theorem ofCode_code {α κ : Type} [DecidableEq κ] {values : List α} {code : α → κ}
    (listed : ∀ value, ofCode values code (code value) = some value) (value found : α)
    (read : ofCode values code (code value) = some found) : found = value := by
  rw [listed value] at read
  exact (Option.some.inj read).symm

theorem term_listed (term : ObjectiveTerm) :
    ofCode ObjectiveTerm.all ObjectiveTerm.code term.code = some term := by
  cases term <;> rfl

theorem kind_listed (kind : ConstraintKind) :
    ofCode ConstraintKind.all (fun kind => kind.code.toUInt16) kind.code.toUInt16 = some kind := by
  cases kind <;> rfl

theorem status_listed (status : FeasibilityStatus) :
    ofCode FeasibilityStatus.all FeasibilityStatus.code status.code = some status := by
  cases status <;> rfl

theorem decision_listed (decision : ChurnDecision) :
    ofCode ChurnDecision.all ChurnDecision.code decision.code = some decision := by
  cases decision <;> rfl

theorem state_listed (state : PlanState) :
    ofCode PlanState.all PlanState.code state.code = some state := by
  cases state <;> rfl

theorem applicability_listed (applicability : PlanApplicability) :
    ofCode PlanApplicability.all PlanApplicability.code applicability.code = some applicability := by
  cases applicability <;> rfl

theorem fitsCount_id {kind : IdKind} (id : Id kind) : FitsCount id.str.length :=
  lt_of_le_of_lt id.length_le (by decide)

theorem parse_str {kind : IdKind} (id found : Id kind) (read : Id.parse id.str = some found) :
    found = id := by
  unfold Id.parse at read
  split at read
  · exact (Option.some.inj read).symm
  · cases read

theorem parse_value {kind : GenKind} (generation found : Gen kind)
    (read : Gen.parse generation.value = some found) : found = generation := by
  unfold Gen.parse at read
  split at read
  · cases read
  · exact (Option.some.inj read).symm

theorem requiredId_inverts {kind : IdKind} (id : Id kind) (malformed invalid : String) :
    Inverts (requiredId malformed invalid) (Writer.str id.str) id :=
  Inverts.finish (need_inverts (str_reads Limits.maxNameLength (fitsCount_id id)) .malformedInput malformed)
    (parsed_inverts .malformedInput invalid (parse_str id))

theorem optionalId_inverts {kind : IdKind} (id : Id kind) (malformed invalid : String) :
    Inverts (optionalId malformed invalid) (Writer.str id.str) id := by
  have second : Inverts (if id.str.isEmpty then pure default else
      parsed (Id.parse id.str) .malformedInput invalid : Decoding (Id kind)) [] id := by
    apply Inverts.ite
    · intro empty
      have absent : (default : Id kind) = id := Id.ext (List.isEmpty_iff.mp empty).symm
      rw [absent]
      exact Inverts.pure id
    · intro _
      exact parsed_inverts .malformedInput invalid (parse_str id)
  exact Inverts.finish
    (need_inverts (str_reads Limits.maxNameLength (fitsCount_id id)) .malformedInput malformed) second

theorem requiredGen_inverts {kind : GenKind} (generation : Gen kind) (truncated zero : String) :
    Inverts (requiredGen truncated zero) (Writer.u64 generation.value) generation :=
  Inverts.finish (need_inverts (u64_reads generation.value) .truncatedInput truncated)
    (parsed_inverts .invalidGeneration zero (parse_value generation))

theorem optionalGen_inverts {kind : GenKind} (present : Bool) (generation : Gen kind)
    (truncated zero : String) : Inverts (optionalGen present truncated zero)
      (Writer.u64 generation.value) (if present then generation else default) := by
  have second : Inverts (if present then parsed (Gen.parse generation.value) .invalidGeneration zero
      else pure default : Decoding (Gen kind)) [] (if present then generation else default) := by
    cases present with
    | true => exact parsed_inverts .invalidGeneration zero (parse_value generation)
    | false => exact Inverts.pure default
  exact Inverts.finish (need_inverts (u64_reads generation.value) .truncatedInput truncated) second

theorem boundedText_inverts {value : Text} (fits : FitsCount value.length) (malformed : String) :
    Inverts (boundedText malformed) (Writer.str value) value :=
  need_inverts (str_reads Limits.maxTextLength fits) .malformedInput malformed

theorem i64_inverts (value : Int) (detail : String) :
    Inverts (need Reader.i64 .truncatedInput detail) (Writer.i64 value) (wrap64 value) :=
  need_inverts (i64_reads value) .truncatedInput detail

theorem bounded_inverts {α β : Type} {element : Decoding α} {images : β → List UInt8} {values : β → α}
    {items : List β} (limit : Nat) (truncated oversized : String) (fits : FitsCount items.length)
    (each : ∀ item ∈ items, Inverts element (images item) (values item)) :
    Inverts (bounded limit truncated oversized element) (sequence images items) (items.map values) :=
  (need_inverts (u32_reads items.length.toUInt32) .truncatedInput truncated).bind
    (Inverts.guarded (refuse_inverts _ _ _) (counted_inverts fits each))

/-! Sections of the record. -/

theorem component_inverts (component : ObjectiveComponent) :
    Inverts readComponent (Writer.component component) component.durable := by
  unfold readComponent Writer.component
  simp only [List.append_assoc]
  refine (need_inverts (u16_reads _) _ _).bind ?_
  refine Inverts.guarded (parsed_inverts _ _ (ofCode_code term_listed component.term)) ?_
  refine (i64_inverts _ _).bind ?_
  refine (i64_inverts _ _).bind ?_
  exact (i64_inverts _ _).bind_pure

theorem alternative_inverts {alternative : RejectedAlternative}
    (subject : FitsCount alternative.subject.length) (reason : FitsCount alternative.reason.length) :
    Inverts readAlternative (Writer.alternative alternative) alternative.durable := by
  unfold readAlternative Writer.alternative
  simp only [List.append_assoc]
  refine (boundedText_inverts subject _).bind ?_
  refine (boundedText_inverts reason _).bind ?_
  exact (i64_inverts _ _).bind_pure

theorem constraint_inverts {constraint : BindingConstraint}
    (subject : FitsCount constraint.subject.length) (detail : FitsCount constraint.detail.length) :
    Inverts readConstraint (Writer.constraint constraint) constraint.durable := by
  unfold readConstraint Writer.constraint
  simp only [List.append_assoc]
  refine (need_inverts (u16_reads _) _ _).bind ?_
  refine Inverts.guarded (parsed_inverts _ _ (ofCode_code kind_listed constraint.kind)) ?_
  refine (boundedText_inverts subject _).bind ?_
  refine (optionalId_inverts constraint.demand _ _).bind ?_
  refine (optionalId_inverts constraint.resource _ _).bind ?_
  refine (optionalId_inverts constraint.path _ _).bind ?_
  refine (i64_inverts _ _).bind ?_
  refine (i64_inverts _ _).bind ?_
  refine (i64_inverts _ _).bind ?_
  exact (boundedText_inverts detail _).bind_pure

theorem feasibility_inverts {feasibility : FeasibilityResult}
    (summary : FitsCount feasibility.summary.length) (binding : FitsCount feasibility.binding.length)
    (details : ∀ constraint ∈ feasibility.binding,
      FitsCount constraint.subject.length ∧ FitsCount constraint.detail.length) :
    Inverts readFeasibility (Writer.feasibility feasibility) feasibility.durable := by
  have constraints : ∀ constraint ∈ feasibility.binding,
      Inverts readConstraint (Writer.constraint constraint) constraint.durable :=
    fun constraint member =>
      constraint_inverts (details constraint member).1 (details constraint member).2
  unfold readFeasibility Writer.feasibility
  simp only [List.append_assoc]
  refine (boundedText_inverts summary _).bind ?_
  refine (need_inverts (u16_reads _) _ _).bind ?_
  refine Inverts.guarded (parsed_inverts _ _ (ofCode_code status_listed feasibility.status)) ?_
  exact (bounded_inverts _ _ _ binding constraints).bind_pure

theorem pathShare_inverts (share : PathShare) :
    Inverts readPathShare (Writer.pathShare share) share.durable := by
  unfold readPathShare Writer.pathShare
  simp only [List.append_assoc]
  refine (requiredId_inverts share.path _ _).bind ?_
  refine (requiredGen_inverts share.generation _ _).bind ?_
  refine (i64_inverts _ _).bind ?_
  refine (i64_inverts _ _).bind ?_
  refine (i64_inverts _ _).bind ?_
  refine (i64_inverts _ _).bind ?_
  refine (i64_inverts _ _).bind ?_
  exact (need_inverts (boolean_reads _) _ _).bind_pure

theorem demandAllocation_inverts {demand : DemandAllocation} (shares : FitsCount demand.shares.length) :
    Inverts readDemandAllocation (Writer.demandAllocation demand) demand.durable := by
  unfold readDemandAllocation Writer.demandAllocation
  simp only [List.append_assoc]
  refine (requiredId_inverts demand.demand _ _).bind ?_
  refine (requiredGen_inverts demand.generation _ _).bind ?_
  refine (i64_inverts _ _).bind ?_
  refine (i64_inverts _ _).bind ?_
  refine (i64_inverts _ _).bind ?_
  refine (i64_inverts _ _).bind ?_
  refine (i64_inverts _ _).bind ?_
  refine (i64_inverts _ _).bind ?_
  refine (i64_inverts _ _).bind ?_
  refine (need_inverts (boolean_reads _) _ _).bind ?_
  refine (i64_inverts _ _).bind ?_
  refine (i64_inverts _ _).bind ?_
  exact (bounded_inverts _ _ _ shares fun share _ => pathShare_inverts share).bind_pure

theorem resourceUtilization_inverts (resource : ResourceUtilization) :
    Inverts readResourceUtilization (Writer.resourceUtilization resource) resource.durable := by
  unfold readResourceUtilization Writer.resourceUtilization
  simp only [List.append_assoc]
  refine (requiredId_inverts resource.resource _ _).bind ?_
  refine (requiredGen_inverts resource.generation _ _).bind ?_
  refine (i64_inverts _ _).bind ?_
  refine (i64_inverts _ _).bind ?_
  refine (i64_inverts _ _).bind ?_
  refine (i64_inverts _ _).bind ?_
  refine (i64_inverts _ _).bind ?_
  refine (i64_inverts _ _).bind ?_
  refine (i64_inverts _ _).bind ?_
  exact (need_inverts (boolean_reads _) _ _).bind_pure

theorem allocation_inverts {allocation : Allocation} (demands : FitsCount allocation.demands.length)
    (shares : ∀ demand ∈ allocation.demands, FitsCount demand.shares.length)
    (resources : FitsCount allocation.resources.length) :
    Inverts readAllocation (Writer.allocation allocation) allocation.durable := by
  have entries : ∀ demand ∈ allocation.demands,
      Inverts readDemandAllocation (Writer.demandAllocation demand) demand.durable :=
    fun demand member => demandAllocation_inverts (shares demand member)
  unfold readAllocation Writer.allocation
  simp only [List.append_assoc]
  refine (bounded_inverts _ _ _ demands entries).bind ?_
  refine (bounded_inverts _ _ _ resources fun resource _ => resourceUtilization_inverts resource).bind ?_
  refine (i64_inverts _ _).bind ?_
  refine (i64_inverts _ _).bind ?_
  exact (need_inverts (boolean_reads _) _ _).bind_pure

theorem churn_inverts {churn : ChurnReport} (rationale : FitsCount churn.rationale.length) :
    Inverts readChurn (Writer.churn churn) churn.durable := by
  unfold readChurn Writer.churn
  simp only [List.append_assoc]
  refine (need_inverts (u8_reads _) _ _).bind ?_
  refine Inverts.guarded (parsed_inverts _ _ (ofCode_code decision_listed churn.decision)) ?_
  refine (i64_inverts _ _).bind ?_
  refine (i64_inverts _ _).bind ?_
  refine (i64_inverts _ _).bind ?_
  refine (i64_inverts _ _).bind ?_
  refine (i64_inverts _ _).bind ?_
  refine (need_inverts (u32_reads _) _ _).bind ?_
  refine (need_inverts (u32_reads _) _ _).bind ?_
  refine (need_inverts (u32_reads _) _ _).bind ?_
  refine (need_inverts (u32_reads _) _ _).bind ?_
  refine (i64_inverts _ _).bind ?_
  exact (boundedText_inverts rationale _).bind_pure

theorem authorityGen_inverts {kind : GenKind} (generation : Gen kind) :
    Inverts authorityGen (Writer.u64 generation.value) generation :=
  Inverts.finish (need_inverts (u64_reads generation.value) _ _)
    (parsed_inverts _ _ (parse_value generation))

theorem authorityRef_inverts {id : IdKind} {generation : GenKind} (ref : Ref id generation) :
    Inverts authorityRef (Writer.ref ref) ref := by
  unfold authorityRef Writer.ref
  refine (need_inverts (str_reads _ (fitsCount_id ref.id)) _ _).bind ?_
  refine Inverts.finish (need_inverts (u64_reads _) _ _) ?_
  refine Inverts.guarded (parsed_inverts _ _ (parse_str ref.id)) ?_
  exact (parsed_inverts _ _ (parse_value ref.generation)).bind_pure

theorem authorityDigest_inverts (value : Digest) : Inverts authorityDigest (Writer.digest value) value :=
  need_inverts (digest_reads value) _ _

theorem authority_inverts (authority : AuthorityVector) :
    Inverts readAuthority (Writer.authority authority) authority := by
  unfold readAuthority Writer.authority
  simp only [List.append_assoc]
  refine (authorityGen_inverts authority.fabricEpoch).bind ?_
  refine (authorityGen_inverts authority.topologyGeneration).bind ?_
  refine (authorityGen_inverts authority.linkStateGeneration).bind ?_
  refine (authorityGen_inverts authority.pathAuthorityGeneration).bind ?_
  refine (authorityGen_inverts authority.failureDomainGeneration).bind ?_
  refine (authorityRef_inverts authority.capacity).bind ?_
  refine (authorityRef_inverts authority.reservations).bind ?_
  refine (authorityRef_inverts authority.policy).bind ?_
  refine (authorityRef_inverts authority.objective).bind ?_
  refine (authorityRef_inverts authority.candidateSet).bind ?_
  refine (authorityDigest_inverts authority.demandSetDigest).bind ?_
  refine (authorityDigest_inverts authority.candidateSetDigest).bind ?_
  refine (authorityDigest_inverts authority.resourceCatalogDigest).bind ?_
  refine (authorityDigest_inverts authority.reservationSetDigest).bind ?_
  refine (authorityDigest_inverts authority.policyDigest).bind ?_
  exact (authorityDigest_inverts authority.objectiveDigest).bind_pure

theorem boot_ofFn (boot : BootId) :
    (⟨Vector.ofFn fun i : Fin 16 => (Writer.boot boot).getD i.val 0⟩ : BootId) = boot := by
  have same : (Vector.ofFn fun i : Fin 16 => (Writer.boot boot).getD i.val 0) = boot.bytes := by
    apply Vector.ext
    intro i inside
    have present : i < boot.bytes.toList.length := by simpa using inside
    simp only [Writer.boot, Vector.getElem_ofFn, List.getD_eq_getElem?_getD]
    rw [List.getElem?_eq_getElem present]
    simp
  exact congrArg BootId.mk same

theorem boot_reads (boot : BootId) : Reads (Reader.raw 16) (Writer.boot boot) (Writer.boot boot) := by
  have width : (Writer.boot boot).length = 16 := by simp [Writer.boot]
  have reads := Reader.raw_reads (Writer.boot boot)
  rwa [width] at reads

/-- What the first section gives: the rest of the plan is still at its defaults. -/
def boundPart (plan : Plan) : Plan :=
  { id := plan.id
    generation := plan.generation
    state := plan.state
    applicability := plan.applicability
    attempt := plan.attempt
    attemptGeneration := plan.attemptGeneration
    publisher := plan.publisher
    publisherBoot := plan.publisherBoot
    coordinatorIncarnation := plan.coordinatorIncarnation
    authority := plan.authority }

theorem planBinding_inverts (plan : Plan) :
    Inverts readPlanBinding (Writer.planBinding plan) (boundPart plan) := by
  unfold readPlanBinding Writer.planBinding
  simp only [List.append_assoc]
  refine (need_inverts (u16_reads _) _ _).bind ?_
  refine Inverts.guarded (refuse_inverts _ _ _) ?_
  refine (requiredId_inverts plan.id _ _).bind ?_
  refine (requiredGen_inverts plan.generation _ _).bind ?_
  refine (need_inverts (u16_reads _) _ _).bind ?_
  refine (need_inverts (u16_reads _) _ _).bind ?_
  refine Inverts.guarded (parsed_inverts _ _ (ofCode_code state_listed plan.state)) ?_
  refine Inverts.guarded
    (parsed_inverts _ _ (ofCode_code applicability_listed plan.applicability)) ?_
  refine (requiredId_inverts plan.attempt _ _).bind ?_
  refine (requiredGen_inverts plan.attemptGeneration _ _).bind ?_
  refine (requiredId_inverts plan.publisher _ _).bind ?_
  refine (need_inverts (boot_reads plan.publisherBoot) _ _).bind ?_
  rw [boot_ofFn]
  refine Inverts.guarded (refuse_inverts _ _ _) ?_
  refine (requiredGen_inverts plan.coordinatorIncarnation _ _).bind ?_
  refine (authority_inverts plan.authority).finish ?_
  exact Inverts.guarded (refuse_inverts _ _ _) (Inverts.pure (boundPart plan))

/-- The lineage is read into whatever the sections before it gave. -/
theorem planLineage_inverts (before plan : Plan) :
    Inverts (readPlanLineage before) (Writer.planLineage plan)
      { before with
        supersedes := plan.supersedes.durable
        supersededBy := plan.supersededBy.durable
        commit := plan.commit
        commitGeneration := if plan.commit.valid then plan.commitGeneration else default
        committedTick := plan.committedTick
        declaredTick := plan.declaredTick
        proposedTick := plan.proposedTick } := by
  unfold readPlanLineage Writer.planLineage Writer.ref
  simp only [List.append_assoc]
  refine (optionalId_inverts plan.supersedes.id _ _).bind ?_
  refine (optionalGen_inverts _ plan.supersedes.generation _ _).bind ?_
  refine (optionalId_inverts plan.supersededBy.id _ _).bind ?_
  refine (optionalGen_inverts _ plan.supersededBy.generation _ _).bind ?_
  refine (optionalId_inverts plan.commit _ _).bind ?_
  refine (optionalGen_inverts _ plan.commitGeneration _ _).bind ?_
  refine (need_inverts (u64_reads _) _ _).bind ?_
  refine (need_inverts (u64_reads _) _ _).bind ?_
  exact (need_inverts (u64_reads _) _ _).bind_pure

theorem plan_inverts {plan : Plan} (fits : FitsRecord plan) :
    Inverts readPlan (encodePlan plan) plan.durable := by
  have alternatives : ∀ alternative ∈ plan.alternatives,
      Inverts readAlternative (Writer.alternative alternative) alternative.durable :=
    fun alternative member =>
      alternative_inverts (fits.texts alternative member).1 (fits.texts alternative member).2
  unfold readPlan encodePlan
  simp only [List.append_assoc]
  refine (planBinding_inverts plan).bind ?_
  refine (bounded_inverts _ _ _ fits.components fun component _ => component_inverts component).bind ?_
  refine (bounded_inverts _ _ _ fits.alternatives alternatives).bind ?_
  refine (feasibility_inverts fits.summary fits.binding fits.details).bind ?_
  refine (allocation_inverts fits.demands fits.shares fits.resources).bind ?_
  refine (churn_inverts fits.rationale).bind ?_
  refine (i64_inverts _ _).bind ?_
  refine (optionalId_inverts plan.explanation _ _).bind ?_
  refine (need_inverts (digest_reads _) _ _).bind ?_
  exact planLineage_inverts _ plan

end PlanCodec

/-! A payload within the record bound has no length that a count could not spell. -/

namespace Writer

theorem length_i64 (value : Int) : (i64 value).length = 8 := rfl

theorem length_le_str (value : Text) : value.length ≤ (str value).length := by
  simp [str]

theorem length_mem_le_sequence {α : Type} (image : α → List UInt8) {items : List α} {item : α}
    (member : item ∈ items) : (image item).length ≤ (sequence image items).length := by
  have inside : (image item).length ≤ (items.flatMap image).length := by
    rw [List.flatMap_def]
    exact (List.sublist_flatten_of_mem (List.mem_map_of_mem member)).length_le
  simp only [sequence, List.length_append]
  omega

theorem length_le_sequence {α : Type} (image : α → List UInt8) (items : List α)
    (positive : ∀ item, 0 < (image item).length) : items.length ≤ (sequence image items).length := by
  have each := List.length_le_sum_of_one_le (items.map fun item => (image item).length) (by
    intro size member
    obtain ⟨item, -, rfl⟩ := List.mem_map.1 member
    exact positive item)
  simp only [sequence, List.length_append, List.length_flatMap]
  simp only [List.length_map] at each
  omega

end Writer

theorem fitsRecord_of_length {plan : Plan} (bounded : (encodePlan plan).length ≤ Limits.maxFramePayload) :
    FitsRecord plan := by
  have whole : (encodePlan plan).length < 2 ^ 32 := lt_of_le_of_lt bounded (by decide)
  unfold encodePlan Writer.feasibility Writer.allocation Writer.churn at whole
  simp only [List.length_append] at whole
  have components := Writer.length_le_sequence Writer.component plan.components (by
    intro component
    simp only [Writer.component, List.length_append, Writer.length_i64]
    omega)
  have alternatives := Writer.length_le_sequence Writer.alternative plan.alternatives (by
    intro alternative
    simp only [Writer.alternative, List.length_append, Writer.length_i64]
    omega)
  have bindings := Writer.length_le_sequence Writer.constraint plan.feasibility.binding (by
    intro constraint
    simp only [Writer.constraint, List.length_append, Writer.length_i64]
    omega)
  have demands := Writer.length_le_sequence Writer.demandAllocation plan.allocation.demands (by
    intro demand
    simp only [Writer.demandAllocation, List.length_append, Writer.length_i64]
    omega)
  have resources := Writer.length_le_sequence Writer.resourceUtilization plan.allocation.resources (by
    intro resource
    simp only [Writer.resourceUtilization, List.length_append, Writer.length_i64]
    omega)
  have summary := Writer.length_le_str plan.feasibility.summary
  have rationale := Writer.length_le_str plan.churn.rationale
  refine ⟨?_, ?_, ?_, ?_, ?_, ?_, ?_, ?_, ?_, ?_⟩
  · show plan.components.length < 2 ^ 32
    omega
  · show plan.alternatives.length < 2 ^ 32
    omega
  · intro alternative member
    have inside := Writer.length_mem_le_sequence Writer.alternative member
    have subject := Writer.length_le_str alternative.subject
    have reason := Writer.length_le_str alternative.reason
    simp only [Writer.alternative, List.length_append] at inside
    show alternative.subject.length < 2 ^ 32 ∧ alternative.reason.length < 2 ^ 32
    omega
  · show plan.feasibility.summary.length < 2 ^ 32
    omega
  · show plan.feasibility.binding.length < 2 ^ 32
    omega
  · intro constraint member
    have inside := Writer.length_mem_le_sequence Writer.constraint member
    have subject := Writer.length_le_str constraint.subject
    have detail := Writer.length_le_str constraint.detail
    simp only [Writer.constraint, List.length_append] at inside
    show constraint.subject.length < 2 ^ 32 ∧ constraint.detail.length < 2 ^ 32
    omega
  · show plan.allocation.demands.length < 2 ^ 32
    omega
  · intro demand member
    have inside := Writer.length_mem_le_sequence Writer.demandAllocation member
    have shares := Writer.length_le_sequence Writer.pathShare demand.shares (by
      intro share
      simp only [Writer.pathShare, List.length_append, Writer.length_i64]
      omega)
    simp only [Writer.demandAllocation, List.length_append] at inside
    show demand.shares.length < 2 ^ 32
    omega
  · show plan.allocation.resources.length < 2 ^ 32
    omega
  · show plan.churn.rationale.length < 2 ^ 32
    omega

/-- A plan record that decodes gives back the plan. -/
theorem decodePlan_encodePlan {plan found : Plan} (fits : FitsRecord plan)
    (decoded : decodePlan (encodePlan plan) = .ok found) : found = plan.durable := by
  unfold decodePlan decodeWhole at decoded
  cases run : PlanCodec.readPlan (encodePlan plan) with
  | error reason =>
      rw [run] at decoded
      cases decoded
  | ok pair =>
      have whole : PlanCodec.readPlan (encodePlan plan ++ []) = .ok pair := by
        rw [List.append_nil]
        exact run
      rw [run, PlanCodec.plan_inverts fits [] pair whole] at decoded
      exact (Except.ok.inj decoded).symm

end TrafficFabric
