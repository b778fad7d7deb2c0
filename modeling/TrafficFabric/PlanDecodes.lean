import TrafficFabric.PlanRoundTrip

set_option autoImplicit false

/- When a plan record is read back: what the decoder checks, asked of the plan that is written. -/
namespace TrafficFabric

open Writer (sequence)

/-! The reader finds what was written. -/

/-- With anything behind the image, the reader finds the value. -/
def Finds {α : Type} (read : Reader α) (image : List UInt8) (value : α) : Prop :=
  ∀ rest, read (image ++ rest) = some (value, rest)

namespace Reader

theorem mapped_finds {α β : Type} {read : Reader α} {image : List UInt8} {value : α} (update : α → β)
    (finds : Finds read image value) : Finds (mapped read update) image (update value) := by
  intro rest
  unfold mapped
  rw [finds rest]
  rfl

theorem u8_finds (value : UInt8) : Finds u8 (Writer.u8 value) value :=
  mapped_finds _ (raw_append [value])

theorem u16_finds (value : UInt16) : Finds u16 (Writer.u16 value) value := by
  have finds := mapped_finds word16 (raw_append (Writer.u16 value))
  rwa [word16_u16] at finds

theorem u32_finds (value : UInt32) : Finds u32 (Writer.u32 value) value := by
  have finds := mapped_finds word32 (raw_append (Writer.u32 value))
  rwa [word32_u32] at finds

theorem u64_finds (value : UInt64) : Finds u64 (Writer.u64 value) value := by
  have finds := mapped_finds word64 (raw_append (Writer.u64 value))
  rwa [word64_u64] at finds

theorem i64_finds (value : Int) : Finds i64 (Writer.i64 value) (wrap64 value) :=
  mapped_finds signed (u64_finds (UInt64.ofInt value))

theorem digest_finds (value : Digest) : Finds digest (Writer.digest value) value := by
  have width : (Writer.digest value).length = 32 := by simp [Writer.digest]
  have finds := mapped_finds digestOf (raw_append (Writer.digest value))
  rwa [digestOf_digest, width] at finds

theorem boolean_finds (value : Bool) : Finds boolean (Writer.boolean value) value := by
  intro rest
  have found := u8_finds (if value then 1 else 0) rest
  unfold boolean Writer.boolean
  rw [found]
  cases value <;> rfl

theorem str_finds {maxLength : Nat} {value : Text} (fits : FitsCount value.length)
    (short : value.length ≤ maxLength) : Finds (str maxLength) (Writer.str value) value := by
  intro rest
  have found : u32 (Writer.count value.length ++ (value ++ rest)) =
      some (value.length.toUInt32, value ++ rest) := u32_finds _ (value ++ rest)
  unfold str Writer.str
  rw [List.append_assoc, found]
  simp only [toNat_count fits]
  rw [if_neg (not_lt.2 short)]
  exact raw_append value rest

end Reader

theorem need_yields {α : Type} {read : Reader α} {image : List UInt8} {value : α}
    (finds : Finds read image value) (code : ErrorCode) (detail : String) :
    Yields (need read code detail) image value := by
  intro rest
  unfold need
  rw [finds rest]

theorem refuse_yields {condition : Bool} (fine : condition = false) (code : ErrorCode) (detail : String) :
    Yields (refuse condition code detail) [] () := by
  subst fine
  exact Yields.pure ()

theorem parsed_yields {α : Type} {attempt : Option α} {value : α} (found : attempt = some value)
    (code : ErrorCode) (detail : String) : Yields (parsed attempt code detail) [] value := by
  subst found
  exact Yields.pure value

/-! What the decoder asks of the parts of a plan. -/

/-- Either reference is set as a whole, or it is absent. -/
def Ref.Readable {id : IdKind} {generation : GenKind} (ref : Ref id generation) : Prop :=
  ref.id.valid = true → ref.generation.valid = true

def RejectedAlternative.Readable (alternative : RejectedAlternative) : Prop :=
  alternative.subject.length ≤ Limits.maxTextLength ∧ alternative.reason.length ≤ Limits.maxTextLength

def BindingConstraint.Readable (constraint : BindingConstraint) : Prop :=
  constraint.subject.length ≤ Limits.maxTextLength ∧ constraint.detail.length ≤ Limits.maxTextLength

structure FeasibilityResult.Readable (feasibility : FeasibilityResult) : Prop where
  summary : feasibility.summary.length ≤ Limits.maxTextLength
  count : feasibility.binding.length ≤ Limits.maxExplanationEntries
  binding : ∀ constraint ∈ feasibility.binding, constraint.Readable

def PathShare.Readable (share : PathShare) : Prop :=
  share.path.valid = true ∧ share.generation.valid = true

structure DemandAllocation.Readable (demand : DemandAllocation) : Prop where
  named : demand.demand.valid = true ∧ demand.generation.valid = true
  count : demand.shares.length ≤ Limits.maxPathsPerDemand
  shares : ∀ share ∈ demand.shares, share.Readable

def ResourceUtilization.Readable (resource : ResourceUtilization) : Prop :=
  resource.resource.valid = true ∧ resource.generation.valid = true

structure Allocation.Readable (allocation : Allocation) : Prop where
  demandCount : allocation.demands.length ≤ Limits.maxDemands
  demands : ∀ demand ∈ allocation.demands, demand.Readable
  resourceCount : allocation.resources.length ≤ Limits.maxResources
  resources : ∀ resource ∈ allocation.resources, resource.Readable

/-- What the decoder checks of a plan. -/
structure Plan.Readable (plan : Plan) : Prop where
  named : plan.id.valid = true ∧ plan.generation.valid = true
  attempt : plan.attempt.valid = true ∧ plan.attemptGeneration.valid = true
  publisher : plan.publisher.valid = true ∧ plan.publisherBoot.valid = true
  incarnation : plan.coordinatorIncarnation.valid = true
  authority : plan.authority.valid = true
  componentCount : plan.components.length ≤ 16
  alternativeCount : plan.alternatives.length ≤ Limits.maxAlternatives
  alternatives : ∀ alternative ∈ plan.alternatives, alternative.Readable
  feasibility : plan.feasibility.Readable
  allocation : plan.allocation.Readable
  rationale : plan.churn.rationale.length ≤ Limits.maxTextLength
  supersedes : plan.supersedes.Readable
  supersededBy : plan.supersededBy.Readable
  commit : plan.commit.valid = true → plan.commitGeneration.valid = true

namespace PlanCodec

open Reader (u8_finds u16_finds u32_finds u64_finds i64_finds boolean_finds str_finds digest_finds)

/-! Fields. -/

theorem parse_str_some {kind : IdKind} {id : Id kind} (valid : id.valid = true) :
    Id.parse id.str = some id := by
  have accepted : isValidName id.value = true := by
    rcases id.canonical with empty | accepted
    · rw [Id.valid, empty] at valid
      cases valid
    · exact accepted
  unfold Id.parse Id.str
  rw [dif_pos accepted]

theorem parse_value_some {kind : GenKind} {generation : Gen kind} (valid : generation.valid = true) :
    Gen.parse generation.value = some generation := by
  have positive : generation.value ≠ 0 := by simpa [Gen.valid] using valid
  unfold Gen.parse
  rw [if_neg positive]

theorem name_finds {kind : IdKind} (id : Id kind) :
    Finds (Reader.str Limits.maxNameLength) (Writer.str id.str) id.str :=
  str_finds (fitsCount_id id) id.length_le

theorem requiredId_yields {kind : IdKind} {id : Id kind} (valid : id.valid = true)
    (malformed invalid : String) : Yields (requiredId malformed invalid) (Writer.str id.str) id :=
  Yields.finish (need_yields (name_finds id) _ _) (parsed_yields (parse_str_some valid) _ _)

theorem optionalId_yields {kind : IdKind} (id : Id kind) (malformed invalid : String) :
    Yields (optionalId malformed invalid) (Writer.str id.str) id := by
  have second : Yields (if id.str.isEmpty then pure default else
      parsed (Id.parse id.str) .malformedInput invalid : Decoding (Id kind)) [] id := by
    by_cases empty : id.str.isEmpty = true
    · have absent : (default : Id kind) = id := Id.ext (List.isEmpty_iff.mp empty).symm
      rw [if_pos empty, absent]
      exact Yields.pure id
    · have valid : id.valid = true := by simpa [Id.valid, Id.str] using empty
      rw [if_neg empty]
      exact parsed_yields (parse_str_some valid) _ _
  exact Yields.finish (need_yields (name_finds id) _ _) second

theorem requiredGen_yields {kind : GenKind} {generation : Gen kind} (valid : generation.valid = true)
    (truncated zero : String) :
    Yields (requiredGen truncated zero) (Writer.u64 generation.value) generation :=
  Yields.finish (need_yields (u64_finds generation.value) _ _)
    (parsed_yields (parse_value_some valid) _ _)

theorem optionalGen_yields {kind : GenKind} {present : Bool} {generation : Gen kind}
    (valid : present = true → generation.valid = true) (truncated zero : String) :
    Yields (optionalGen present truncated zero) (Writer.u64 generation.value)
      (if present then generation else default) := by
  have second : Yields (if present then parsed (Gen.parse generation.value) .invalidGeneration zero
      else pure default : Decoding (Gen kind)) [] (if present then generation else default) := by
    cases present with
    | true => exact parsed_yields (parse_value_some (valid rfl)) _ _
    | false => exact Yields.pure default
  exact Yields.finish (need_yields (u64_finds generation.value) _ _) second

theorem boundedText_yields {value : Text} (short : value.length ≤ Limits.maxTextLength)
    (malformed : String) : Yields (boundedText malformed) (Writer.str value) value := by
  have fits : FitsCount value.length := lt_of_le_of_lt short (by decide)
  exact need_yields (str_finds fits short) _ _

theorem i64_yields (value : Int) (detail : String) :
    Yields (need Reader.i64 .truncatedInput detail) (Writer.i64 value) (wrap64 value) :=
  need_yields (i64_finds value) _ _

theorem bounded_yields {α β : Type} {element : Decoding α} {images : β → List UInt8} {values : β → α}
    {items : List β} {limit : Nat} (few : items.length ≤ limit) (small : limit < 2 ^ 32)
    (truncated oversized : String) (each : ∀ item ∈ items, Yields element (images item) (values item)) :
    Yields (bounded limit truncated oversized element) (sequence images items) (items.map values) := by
  have fits : FitsCount items.length := lt_of_le_of_lt few small
  have repeated := Yields.repeated items each
  rw [← Reader.toNat_count fits] at repeated
  refine (need_yields (u32_finds items.length.toUInt32) _ _).bind
    (Yields.guarded (refuse_yields ?_ _ _) repeated)
  rw [Reader.toNat_count fits, decide_eq_false_iff_not, not_lt]
  exact few

/-! Sections of the record. -/

theorem component_yields (component : ObjectiveComponent) :
    Yields readComponent (Writer.component component) component.durable := by
  unfold readComponent Writer.component
  simp only [List.append_assoc]
  refine (need_yields (u16_finds _) _ _).bind ?_
  refine Yields.guarded (parsed_yields (term_listed component.term) _ _) ?_
  refine (i64_yields _ _).bind ?_
  refine (i64_yields _ _).bind ?_
  exact (i64_yields _ _).bind_pure

theorem alternative_yields {alternative : RejectedAlternative} (readable : alternative.Readable) :
    Yields readAlternative (Writer.alternative alternative) alternative.durable := by
  unfold readAlternative Writer.alternative
  simp only [List.append_assoc]
  refine (boundedText_yields readable.1 _).bind ?_
  refine (boundedText_yields readable.2 _).bind ?_
  exact (i64_yields _ _).bind_pure

theorem constraint_yields {constraint : BindingConstraint} (readable : constraint.Readable) :
    Yields readConstraint (Writer.constraint constraint) constraint.durable := by
  unfold readConstraint Writer.constraint
  simp only [List.append_assoc]
  refine (need_yields (u16_finds _) _ _).bind ?_
  refine Yields.guarded (parsed_yields (kind_listed constraint.kind) _ _) ?_
  refine (boundedText_yields readable.1 _).bind ?_
  refine (optionalId_yields constraint.demand _ _).bind ?_
  refine (optionalId_yields constraint.resource _ _).bind ?_
  refine (optionalId_yields constraint.path _ _).bind ?_
  refine (i64_yields _ _).bind ?_
  refine (i64_yields _ _).bind ?_
  refine (i64_yields _ _).bind ?_
  exact (boundedText_yields readable.2 _).bind_pure

theorem feasibility_yields {feasibility : FeasibilityResult} (readable : feasibility.Readable) :
    Yields readFeasibility (Writer.feasibility feasibility) feasibility.durable := by
  have constraints : ∀ constraint ∈ feasibility.binding,
      Yields readConstraint (Writer.constraint constraint) constraint.durable :=
    fun constraint member => constraint_yields (readable.binding constraint member)
  unfold readFeasibility Writer.feasibility
  simp only [List.append_assoc]
  refine (boundedText_yields readable.summary _).bind ?_
  refine (need_yields (u16_finds _) _ _).bind ?_
  refine Yields.guarded (parsed_yields (status_listed feasibility.status) _ _) ?_
  exact (bounded_yields readable.count (by decide) _ _ constraints).bind_pure

theorem pathShare_yields {share : PathShare} (readable : share.Readable) :
    Yields readPathShare (Writer.pathShare share) share.durable := by
  unfold readPathShare Writer.pathShare
  simp only [List.append_assoc]
  refine (requiredId_yields readable.1 _ _).bind ?_
  refine (requiredGen_yields readable.2 _ _).bind ?_
  refine (i64_yields _ _).bind ?_
  refine (i64_yields _ _).bind ?_
  refine (i64_yields _ _).bind ?_
  refine (i64_yields _ _).bind ?_
  refine (i64_yields _ _).bind ?_
  exact (need_yields (boolean_finds _) _ _).bind_pure

theorem demandAllocation_yields {demand : DemandAllocation} (readable : demand.Readable) :
    Yields readDemandAllocation (Writer.demandAllocation demand) demand.durable := by
  unfold readDemandAllocation Writer.demandAllocation
  simp only [List.append_assoc]
  refine (requiredId_yields readable.named.1 _ _).bind ?_
  refine (requiredGen_yields readable.named.2 _ _).bind ?_
  refine (i64_yields _ _).bind ?_
  refine (i64_yields _ _).bind ?_
  refine (i64_yields _ _).bind ?_
  refine (i64_yields _ _).bind ?_
  refine (i64_yields _ _).bind ?_
  refine (i64_yields _ _).bind ?_
  refine (i64_yields _ _).bind ?_
  refine (need_yields (boolean_finds _) _ _).bind ?_
  refine (i64_yields _ _).bind ?_
  refine (i64_yields _ _).bind ?_
  exact (bounded_yields readable.count (by decide) _ _ fun share member =>
    pathShare_yields (readable.shares share member)).bind_pure

theorem resourceUtilization_yields {resource : ResourceUtilization} (readable : resource.Readable) :
    Yields readResourceUtilization (Writer.resourceUtilization resource) resource.durable := by
  unfold readResourceUtilization Writer.resourceUtilization
  simp only [List.append_assoc]
  refine (requiredId_yields readable.1 _ _).bind ?_
  refine (requiredGen_yields readable.2 _ _).bind ?_
  refine (i64_yields _ _).bind ?_
  refine (i64_yields _ _).bind ?_
  refine (i64_yields _ _).bind ?_
  refine (i64_yields _ _).bind ?_
  refine (i64_yields _ _).bind ?_
  refine (i64_yields _ _).bind ?_
  refine (i64_yields _ _).bind ?_
  exact (need_yields (boolean_finds _) _ _).bind_pure

theorem allocation_yields {allocation : Allocation} (readable : allocation.Readable) :
    Yields readAllocation (Writer.allocation allocation) allocation.durable := by
  unfold readAllocation Writer.allocation
  simp only [List.append_assoc]
  refine (bounded_yields readable.demandCount (by decide) _ _ fun demand member =>
    demandAllocation_yields (readable.demands demand member)).bind ?_
  refine (bounded_yields readable.resourceCount (by decide) _ _ fun resource member =>
    resourceUtilization_yields (readable.resources resource member)).bind ?_
  refine (i64_yields _ _).bind ?_
  refine (i64_yields _ _).bind ?_
  exact (need_yields (boolean_finds _) _ _).bind_pure

theorem churn_yields {churn : ChurnReport} (short : churn.rationale.length ≤ Limits.maxTextLength) :
    Yields readChurn (Writer.churn churn) churn.durable := by
  unfold readChurn Writer.churn
  simp only [List.append_assoc]
  refine (need_yields (u8_finds _) _ _).bind ?_
  refine Yields.guarded (parsed_yields (decision_listed churn.decision) _ _) ?_
  refine (i64_yields _ _).bind ?_
  refine (i64_yields _ _).bind ?_
  refine (i64_yields _ _).bind ?_
  refine (i64_yields _ _).bind ?_
  refine (i64_yields _ _).bind ?_
  refine (need_yields (u32_finds _) _ _).bind ?_
  refine (need_yields (u32_finds _) _ _).bind ?_
  refine (need_yields (u32_finds _) _ _).bind ?_
  refine (need_yields (u32_finds _) _ _).bind ?_
  refine (i64_yields _ _).bind ?_
  exact (boundedText_yields short _).bind_pure

theorem authorityGen_yields {kind : GenKind} {generation : Gen kind} (valid : generation.valid = true) :
    Yields authorityGen (Writer.u64 generation.value) generation :=
  Yields.finish (need_yields (u64_finds generation.value) _ _)
    (parsed_yields (parse_value_some valid) _ _)

theorem authorityRef_yields {id : IdKind} {generation : GenKind} {ref : Ref id generation}
    (valid : ref.valid = true) : Yields authorityRef (Writer.ref ref) ref := by
  rw [Ref.valid, Bool.and_eq_true] at valid
  unfold authorityRef Writer.ref
  refine (need_yields (name_finds ref.id) _ _).bind ?_
  refine Yields.finish (need_yields (u64_finds _) _ _) ?_
  refine Yields.guarded (parsed_yields (parse_str_some valid.1) _ _) ?_
  exact (parsed_yields (parse_value_some valid.2) _ _).bind_pure

theorem authorityDigest_yields (value : Digest) : Yields authorityDigest (Writer.digest value) value :=
  need_yields (digest_finds value) _ _

theorem authority_yields {authority : AuthorityVector} (valid : authority.valid = true) :
    Yields readAuthority (Writer.authority authority) authority := by
  simp only [AuthorityVector.valid, Bool.and_eq_true] at valid
  obtain ⟨⟨⟨⟨⟨⟨⟨⟨⟨epoch, topology⟩, linkState⟩, paths⟩, domains⟩, capacity⟩, reservations⟩, policy⟩,
    objective⟩, candidates⟩ := valid
  unfold readAuthority Writer.authority
  simp only [List.append_assoc]
  refine (authorityGen_yields epoch).bind ?_
  refine (authorityGen_yields topology).bind ?_
  refine (authorityGen_yields linkState).bind ?_
  refine (authorityGen_yields paths).bind ?_
  refine (authorityGen_yields domains).bind ?_
  refine (authorityRef_yields capacity).bind ?_
  refine (authorityRef_yields reservations).bind ?_
  refine (authorityRef_yields policy).bind ?_
  refine (authorityRef_yields objective).bind ?_
  refine (authorityRef_yields candidates).bind ?_
  refine (authorityDigest_yields authority.demandSetDigest).bind ?_
  refine (authorityDigest_yields authority.candidateSetDigest).bind ?_
  refine (authorityDigest_yields authority.resourceCatalogDigest).bind ?_
  refine (authorityDigest_yields authority.reservationSetDigest).bind ?_
  refine (authorityDigest_yields authority.policyDigest).bind ?_
  exact (authorityDigest_yields authority.objectiveDigest).bind_pure

theorem boot_finds (boot : BootId) : Finds (Reader.raw 16) (Writer.boot boot) (Writer.boot boot) := by
  have width : (Writer.boot boot).length = 16 := by simp [Writer.boot]
  have finds := Reader.raw_append (Writer.boot boot)
  rwa [width] at finds

theorem planBinding_yields {plan : Plan} (readable : plan.Readable) :
    Yields readPlanBinding (Writer.planBinding plan) (boundPart plan) := by
  unfold readPlanBinding Writer.planBinding
  simp only [List.append_assoc]
  refine (need_yields (u16_finds _) _ _).bind ?_
  refine Yields.guarded (refuse_yields (by decide) _ _) ?_
  refine (requiredId_yields readable.named.1 _ _).bind ?_
  refine (requiredGen_yields readable.named.2 _ _).bind ?_
  refine (need_yields (u16_finds _) _ _).bind ?_
  refine (need_yields (u16_finds _) _ _).bind ?_
  refine Yields.guarded (parsed_yields (state_listed plan.state) _ _) ?_
  refine Yields.guarded (parsed_yields (applicability_listed plan.applicability) _ _) ?_
  refine (requiredId_yields readable.attempt.1 _ _).bind ?_
  refine (requiredGen_yields readable.attempt.2 _ _).bind ?_
  refine (requiredId_yields readable.publisher.1 _ _).bind ?_
  refine (need_yields (boot_finds plan.publisherBoot) _ _).bind ?_
  rw [boot_ofFn]
  refine Yields.guarded (refuse_yields (by rw [readable.publisher.2]; rfl) _ _) ?_
  refine (requiredGen_yields readable.incarnation _ _).bind ?_
  refine (authority_yields readable.authority).finish ?_
  exact Yields.guarded (refuse_yields (by rw [readable.authority]; rfl) _ _) (Yields.pure (boundPart plan))

/-- The lineage is read into whatever the sections before it gave. -/
theorem planLineage_yields (before : Plan) {plan : Plan} (readable : plan.Readable) :
    Yields (readPlanLineage before) (Writer.planLineage plan)
      { before with
        supersedes := plan.supersedes.durable
        supersededBy := plan.supersededBy.durable
        commit := plan.commit
        commitGeneration := if plan.commit.valid then plan.commitGeneration else default
        committedTick := plan.committedTick
        declaredTick := plan.declaredTick
        proposedTick := plan.proposedTick } := by
  unfold readPlanLineage Writer.planLineage Writer.ref
  simp only [List.append_assoc]
  refine (optionalId_yields plan.supersedes.id _ _).bind ?_
  refine (optionalGen_yields readable.supersedes _ _).bind ?_
  refine (optionalId_yields plan.supersededBy.id _ _).bind ?_
  refine (optionalGen_yields readable.supersededBy _ _).bind ?_
  refine (optionalId_yields plan.commit _ _).bind ?_
  refine (optionalGen_yields readable.commit _ _).bind ?_
  refine (need_yields (u64_finds _) _ _).bind ?_
  refine (need_yields (u64_finds _) _ _).bind ?_
  exact (need_yields (u64_finds _) _ _).bind_pure

theorem plan_yields {plan : Plan} (readable : plan.Readable) :
    Yields readPlan (encodePlan plan) plan.durable := by
  unfold readPlan encodePlan
  simp only [List.append_assoc]
  refine (planBinding_yields readable).bind ?_
  refine (bounded_yields readable.componentCount (by decide) _ _ fun component _ =>
    component_yields component).bind ?_
  refine (bounded_yields readable.alternativeCount (by decide) _ _ fun alternative member =>
    alternative_yields (readable.alternatives alternative member)).bind ?_
  refine (feasibility_yields readable.feasibility).bind ?_
  refine (allocation_yields readable.allocation).bind ?_
  refine (churn_yields readable.rationale).bind ?_
  refine (i64_yields _ _).bind ?_
  refine (optionalId_yields plan.explanation _ _).bind ?_
  refine (need_yields (digest_finds _) _ _).bind ?_
  exact planLineage_yields _ readable

end PlanCodec

/-- A plan that passes the checks of the decoder is read back. -/
theorem decodePlan_of_readable {plan : Plan} (readable : plan.Readable) :
    decodePlan (encodePlan plan) = .ok plan.durable := by
  have read := PlanCodec.plan_yields readable []
  rw [List.append_nil] at read
  unfold decodePlan decodeWhole
  rw [read]
  rfl

/-! How long a record is. -/

/-- The length of the sections that grow with the fabric. -/
def Plan.bodyLength (plan : Plan) : Nat :=
  (sequence Writer.component plan.components).length +
    (sequence Writer.alternative plan.alternatives).length +
    (Writer.feasibility plan.feasibility).length + (Writer.allocation plan.allocation).length +
    (Writer.churn plan.churn).length

namespace Writer

theorem length_str_id {kind : IdKind} (id : Id kind) : (str id.str).length ≤ 100 := by
  have bound := id.length_le
  have name : (str id.str).length = 4 + id.value.length := by
    unfold str
    rw [List.length_append]
    rfl
  unfold Limits.maxNameLength at bound
  omega

theorem length_ref {id : IdKind} {generation : GenKind} (ref : Ref id generation) :
    (Writer.ref ref).length ≤ 108 := by
  have name := length_str_id ref.id
  have value : (u64 ref.generation.value).length = 8 := rfl
  unfold Writer.ref
  rw [List.length_append]
  omega

theorem length_digest (value : Digest) : (digest value).length = 32 := by simp [digest]

theorem length_authority (authority : AuthorityVector) : (Writer.authority authority).length ≤ 772 := by
  have width : ∀ value : UInt64, (u64 value).length = 8 := fun _ => rfl
  have capacity := length_ref authority.capacity
  have reservations := length_ref authority.reservations
  have policy := length_ref authority.policy
  have objective := length_ref authority.objective
  have candidates := length_ref authority.candidateSet
  unfold Writer.authority
  simp only [List.length_append, width, length_digest]
  omega

theorem length_planBinding (plan : Plan) : (planBinding plan).length ≤ 1200 := by
  have wide : ∀ value : UInt64, (u64 value).length = 8 := fun _ => rfl
  have narrow : ∀ value : UInt16, (u16 value).length = 2 := fun _ => rfl
  have boot : (Writer.boot plan.publisherBoot).length = 16 := by simp [Writer.boot]
  have id := length_str_id plan.id
  have attempt := length_str_id plan.attempt
  have publisher := length_str_id plan.publisher
  have authority := length_authority plan.authority
  unfold planBinding
  simp only [List.length_append, wide, narrow, boot]
  omega

theorem length_planLineage (plan : Plan) : (planLineage plan).length ≤ 400 := by
  have width : ∀ value : UInt64, (u64 value).length = 8 := fun _ => rfl
  have supersedes := length_ref plan.supersedes
  have supersededBy := length_ref plan.supersededBy
  have commit := length_str_id plan.commit
  unfold planLineage
  simp only [List.length_append, width]
  omega

end Writer

theorem length_encodePlan (plan : Plan) : (encodePlan plan).length ≤ plan.bodyLength + 2048 := by
  have binding := Writer.length_planBinding plan
  have lineage := Writer.length_planLineage plan
  have explanation := Writer.length_str_id plan.explanation
  unfold encodePlan Plan.bodyLength
  simp only [List.length_append, Writer.length_i64, Writer.length_digest]
  omega

end TrafficFabric
