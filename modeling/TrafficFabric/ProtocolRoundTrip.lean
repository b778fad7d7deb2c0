import TrafficFabric.PlanContent
import TrafficFabric.Protocol

set_option autoImplicit false

/- What a payload is read back as. Each section of a message is inverted by its reader, which
stops where the section ends; a decoder that accepts a payload accepts no part or extension. -/
namespace TrafficFabric

open Writer (sequence)

/-! What the decoders ask of a message. -/

/-- The binding names its publisher, its attempt and a coordinator incarnation. -/
structure MutationBinding.Readable (binding : MutationBinding) : Prop where
  publisher : binding.publisher.valid = true
  incarnation : binding.coordinatorIncarnation.valid = true
  attempt : binding.attempt.valid = true
  attemptGeneration : binding.attemptGeneration.valid = true

structure RegisterPublisherRequest.Readable (message : RegisterPublisherRequest) : Prop where
  publisher : message.publisher.valid = true
  incarnation : message.coordinatorIncarnation.valid = true
  description : message.description.length ≤ Limits.maxTextLength

structure RegisterPublisherResponse.Readable (message : RegisterPublisherResponse) : Prop where
  incarnation : message.coordinatorIncarnation.valid = true
  detail : message.detail.length ≤ Limits.maxTextLength

structure PlanRequest.Readable (message : PlanRequest) : Prop where
  binding : message.binding.Readable
  planId : message.planId.valid = true
  snapshot : message.snapshot.length ≤ Limits.maxFramePayload
  incumbent : message.incumbent.length ≤ Limits.maxFramePayload
  incumbentRef : message.incumbentRef.Whole

structure PlanResponse.Readable (message : PlanResponse) : Prop where
  detail : message.detail.length ≤ Limits.maxTextLength
  plan : message.plan.Whole
  explanation : message.explanationJson.length ≤ Limits.maxFramePayload
  incumbent : message.incumbent.Whole

structure CommitRequest.Readable (message : CommitRequest) : Prop where
  binding : message.binding.Readable
  plan : message.plan.valid = true
  commit : message.commit.valid = true
  commitGeneration : message.commitGeneration.valid = true

structure CommitResponse.Readable (message : CommitResponse) : Prop where
  detail : message.detail.length ≤ Limits.maxTextLength
  plan : message.plan.Whole
  rationale : message.churn.rationale.length ≤ Limits.maxTextLength

structure SupersedeRequest.Readable (message : SupersedeRequest) : Prop where
  binding : message.binding.Readable
  incumbent : message.incumbent.valid = true
  replacement : message.replacement.valid = true

structure SupersedeResponse.Readable (message : SupersedeResponse) : Prop where
  detail : message.detail.length ≤ Limits.maxTextLength
  incumbent : message.incumbent.Whole
  replacement : message.replacement.Whole

structure RetireRequest.Readable (message : RetireRequest) : Prop where
  binding : message.binding.Readable
  plan : message.plan.valid = true

structure RetireResponse.Readable (message : RetireResponse) : Prop where
  detail : message.detail.length ≤ Limits.maxTextLength
  plan : message.plan.Whole

structure QueryResponse.Readable (message : QueryResponse) : Prop where
  detail : message.detail.length ≤ Limits.maxTextLength
  explanation : message.explanationJson.length ≤ Limits.maxFramePayload
  plan : message.plan.Readable
  record : (encodePlan message.plan).length ≤ Limits.maxFramePayload

def ErrorResponse.Readable (message : ErrorResponse) : Prop :=
  message.detail.length ≤ Limits.maxTextLength

/-! What is read back, every quantity as the 64-bit integer the source holds. -/

def ChurnReport.received (churn : ChurnReport) : ChurnReport :=
  { churn with
    incumbentScore := wrap64 churn.incumbentScore
    proposalScore := wrap64 churn.proposalScore
    improvementPermille := wrap64 churn.improvementPermille
    requiredImprovementPermille := wrap64 churn.requiredImprovementPermille
    movedBandwidth := wrap64 churn.movedBandwidth
    totalBandwidth := wrap64 churn.totalBandwidth
    movedPermille := wrap64 churn.movedPermille
    maxMovedPermille := wrap64 churn.maxMovedPermille
    operationalRiskPermille := wrap64 churn.operationalRiskPermille }

def PlanResponse.received (message : PlanResponse) : PlanResponse :=
  { message with objectiveScore := wrap64 message.objectiveScore }

def CommitResponse.received (message : CommitResponse) : CommitResponse :=
  { message with churn := message.churn.received }

def QueryResponse.received (message : QueryResponse) : QueryResponse :=
  { message with plan := message.plan.durable }

/-- Of an incumbent only the identities and the quantities that bind are carried. -/
def PathShare.carried (share : PathShare) : PathShare :=
  { path := share.path
    generation := share.generation
    granted := wrap64 share.granted
    reserved := wrap64 share.reserved }

def DemandAllocation.carried (demand : DemandAllocation) : DemandAllocation :=
  { demand := demand.demand
    generation := demand.generation
    minimum := wrap64 demand.minimum
    desired := wrap64 demand.desired
    maximum := wrap64 demand.maximum
    granted := wrap64 demand.granted
    reserved := wrap64 demand.reserved
    effective := wrap64 demand.effective
    shares := demand.shares.map PathShare.carried }

def Allocation.carried (allocation : Allocation) : Allocation :=
  { demands := allocation.demands.map DemandAllocation.carried
    totalGranted := wrap64 allocation.totalGranted
    totalReserved := wrap64 allocation.totalReserved
    degraded := allocation.degraded }

namespace Wire

open Reader (u8_finds u16_finds u32_finds u64_finds i64_finds boolean_finds str_finds digest_finds)
open PlanCodec (parse_str_some parse_value_some name_finds boot_finds boot_ofFn decision_listed state_listed
  applicability_listed status_listed bounded_yields i64_yields requiredId_yields requiredGen_yields)

/-! Fields. -/

theorem part_yields {α : Type} {read : Reader α} {image : List UInt8} {value : α}
    (finds : Finds read image value) : Yields (part read) image value := need_yields finds _ _

theorem accept_yields {α : Type} {attempt : Option α} {value : α} (found : attempt = some value) :
    Yields (accept attempt) [] value := parsed_yields found _ _

theorem id_yields {kind : IdKind} {id : Id kind} (valid : id.valid = true) :
    Yields readId (Writer.str id.str) id :=
  Yields.finish (part_yields (name_finds id)) (accept_yields (parse_str_some valid))

theorem gen_yields {kind : GenKind} {generation : Gen kind} (valid : generation.valid = true) :
    Yields readGen (Writer.u64 generation.value) generation :=
  Yields.finish (part_yields (u64_finds generation.value)) (accept_yields (parse_value_some valid))

theorem boot_yields (boot : BootId) : Yields readBoot (Writer.boot boot) boot := by
  refine (part_yields (boot_finds boot)).finish ?_
  rw [boot_ofFn]
  exact Yields.pure boot

theorem text_yields {value : Text} (short : value.length ≤ Limits.maxTextLength) :
    Yields readText (Writer.str value) value :=
  part_yields (str_finds (lt_of_le_of_lt short (by decide)) short)

theorem blob_yields {bytes : List UInt8} (short : bytes.length ≤ Limits.maxFramePayload) :
    Yields readBlob (Writer.blob bytes) bytes :=
  part_yields (str_finds (lt_of_le_of_lt short (by decide)) short)

theorem optionalId_yields {kind : IdKind} (id : Id kind) :
    Yields readOptionalId (Writer.str id.str) id := by
  refine (part_yields (name_finds id)).finish ?_
  by_cases empty : id.str.isEmpty = true
  · have absent : (default : Id kind) = id := Id.ext (List.isEmpty_iff.mp empty).symm
    rw [if_pos empty, absent]
    exact Yields.pure id
  · have valid : id.valid = true := by simpa [Id.valid, Id.str] using empty
    rw [if_neg empty]
    exact accept_yields (parse_str_some valid)

/-- A reference that is set as a whole, or absent as a whole. -/
theorem planRef_yields {ref : PlanRef} (whole : ref.Whole) : Yields readPlanRef (Writer.ref ref) ref := by
  have generation : Yields (readOptionalGen ref.id.valid)
      (Writer.u64 ref.generation.value) ref.generation := by
    refine (part_yields (u64_finds ref.generation.value)).finish ?_
    rcases whole with set | rfl
    · rw [if_pos set.1]
      exact accept_yields (parse_value_some set.2)
    · exact Yields.pure _
  exact (optionalId_yields ref.id).bind generation.bind_pure

theorem whole_of_valid {ref : PlanRef} (valid : ref.valid = true) : ref.Whole := by
  rw [Ref.valid, Bool.and_eq_true] at valid
  exact Or.inl valid

theorem planRefRequired_yields {ref : PlanRef} (valid : ref.valid = true) :
    Yields readPlanRefRequired (Writer.ref ref) ref := by
  refine (planRef_yields (whole_of_valid valid)).finish ?_
  exact Yields.guarded (refuse_yields (by rw [valid]; rfl) _ _) (Yields.pure ref)

theorem state_yields (state : PlanState) : Yields readState (Writer.u16 state.code) state :=
  (part_yields (u16_finds state.code)).finish (accept_yields (state_listed state))

theorem commitGeneration_yields (generation : Gen .commit) :
    Yields readCommitGeneration (Writer.u64 generation.value) generation := by
  refine (part_yields (u64_finds generation.value)).finish ?_
  by_cases valid : (generation.value != 0) = true
  · rw [if_pos valid]
    exact accept_yields (parse_value_some valid)
  · have zero : generation.value = 0 := by simpa using valid
    have absent : default = generation := congrArg Gen.mk zero.symm
    rw [if_neg valid, absent]
    exact Yields.pure generation

theorem binding_yields {binding : MutationBinding} (readable : binding.Readable) :
    Yields readBinding (Writer.mutationBinding binding) binding := by
  unfold readBinding Writer.mutationBinding
  simp only [List.append_assoc]
  refine (id_yields readable.publisher).bind ?_
  refine (boot_yields _).bind ?_
  refine (gen_yields readable.incarnation).bind ?_
  refine (part_yields (u64_finds _)).bind ?_
  refine (id_yields readable.attempt).bind ?_
  exact (gen_yields readable.attemptGeneration).bind_pure

theorem churn_yields {churn : ChurnReport} (short : churn.rationale.length ≤ Limits.maxTextLength) :
    Yields readChurn (Writer.churnReport churn) churn.received := by
  unfold readChurn Writer.churnReport
  simp only [List.append_assoc]
  refine (part_yields (u8_finds _)).bind ?_
  refine Yields.guarded (accept_yields (decision_listed churn.decision)) ?_
  refine (part_yields (i64_finds _)).bind ?_
  refine (part_yields (i64_finds _)).bind ?_
  refine (part_yields (i64_finds _)).bind ?_
  refine (part_yields (i64_finds _)).bind ?_
  refine (part_yields (i64_finds _)).bind ?_
  refine (part_yields (i64_finds _)).bind ?_
  refine (part_yields (i64_finds _)).bind ?_
  refine (part_yields (i64_finds _)).bind ?_
  refine (part_yields (u32_finds _)).bind ?_
  refine (part_yields (u32_finds _)).bind ?_
  refine (part_yields (u32_finds _)).bind ?_
  refine (part_yields (u32_finds _)).bind ?_
  refine (part_yields (u32_finds _)).bind ?_
  refine (part_yields (i64_finds _)).bind ?_
  exact (text_yields short).bind_pure

/-! Messages. -/

theorem helloRequest_yields (message : HelloRequest) : Yields readHelloRequest message.encode message :=
  (part_yields (u16_finds _)).bind_pure

theorem helloResponse_yields {message : HelloResponse}
    (incarnation : message.coordinatorIncarnation.valid = true) :
    Yields readHelloResponse message.encode message := by
  unfold readHelloResponse HelloResponse.encode
  simp only [List.append_assoc]
  refine (part_yields (u16_finds _)).bind ?_
  refine (part_yields (u64_finds _)).bind ?_
  refine (gen_yields incarnation).bind ?_
  refine (boot_yields _).bind ?_
  exact (part_yields (boolean_finds _)).bind_pure

theorem registerPublisherRequest_yields {message : RegisterPublisherRequest} (readable : message.Readable) :
    Yields readRegisterPublisherRequest message.encode message := by
  unfold readRegisterPublisherRequest RegisterPublisherRequest.encode
  simp only [List.append_assoc]
  refine (id_yields readable.publisher).bind ?_
  refine (boot_yields _).bind ?_
  refine (gen_yields readable.incarnation).bind ?_
  refine (part_yields (u64_finds _)).bind ?_
  exact (text_yields readable.description).bind_pure

theorem registerPublisherResponse_yields {message : RegisterPublisherResponse}
    (readable : message.Readable) :
    Yields readRegisterPublisherResponse message.encode message := by
  unfold readRegisterPublisherResponse RegisterPublisherResponse.encode
  simp only [List.append_assoc]
  refine (part_yields (boolean_finds _)).bind ?_
  refine (part_yields (boolean_finds _)).bind ?_
  refine (part_yields (u64_finds _)).bind ?_
  refine (gen_yields readable.incarnation).bind ?_
  exact (text_yields readable.detail).bind_pure

theorem planRequest_yields {message : PlanRequest} (readable : message.Readable) :
    Yields readPlanRequest message.encode message := by
  unfold readPlanRequest PlanRequest.encode
  simp only [List.append_assoc]
  refine (binding_yields readable.binding).bind ?_
  refine (id_yields readable.planId).bind ?_
  refine (blob_yields readable.snapshot).bind ?_
  refine (part_yields (boolean_finds _)).bind ?_
  refine (part_yields (boolean_finds _)).bind ?_
  refine (blob_yields readable.incumbent).bind ?_
  exact (planRef_yields readable.incumbentRef).bind_pure

theorem planResponse_yields {message : PlanResponse} (readable : message.Readable) :
    Yields readPlanResponse message.encode message.received := by
  have explanation : Yields (part (Reader.str Limits.maxFramePayload)) (Writer.str message.explanationJson)
      message.explanationJson := blob_yields readable.explanation
  unfold readPlanResponse PlanResponse.encode
  simp only [List.append_assoc]
  refine (part_yields (u16_finds _)).bind ?_
  refine (text_yields readable.detail).bind ?_
  refine (planRef_yields readable.plan).bind ?_
  refine (part_yields (u16_finds _)).bind ?_
  refine (part_yields (u16_finds _)).bind ?_
  refine (part_yields (u16_finds _)).bind ?_
  refine Yields.guarded (accept_yields (state_listed message.state)) ?_
  refine Yields.guarded (accept_yields (applicability_listed message.applicability)) ?_
  refine Yields.guarded (accept_yields (status_listed message.feasibility)) ?_
  refine (part_yields (i64_finds _)).bind ?_
  refine (part_yields (digest_finds _)).bind ?_
  refine (part_yields (digest_finds _)).bind ?_
  refine explanation.bind ?_
  refine (part_yields (boolean_finds _)).bind ?_
  exact (planRef_yields readable.incumbent).bind_pure

theorem commitRequest_yields {message : CommitRequest} (readable : message.Readable) :
    Yields readCommitRequest message.encode message := by
  unfold readCommitRequest CommitRequest.encode
  simp only [List.append_assoc]
  refine (binding_yields readable.binding).bind ?_
  refine (planRefRequired_yields readable.plan).bind ?_
  refine (id_yields readable.commit).bind ?_
  exact (gen_yields readable.commitGeneration).bind_pure

theorem commitResponse_yields {message : CommitResponse} (readable : message.Readable) :
    Yields readCommitResponse message.encode message.received := by
  unfold readCommitResponse CommitResponse.encode
  simp only [List.append_assoc]
  refine (part_yields (u16_finds _)).bind ?_
  refine (text_yields readable.detail).bind ?_
  refine (planRef_yields readable.plan).bind ?_
  refine (state_yields message.state).bind ?_
  refine (commitGeneration_yields message.commitGeneration).bind ?_
  refine (part_yields (digest_finds _)).bind ?_
  refine (part_yields (boolean_finds _)).bind ?_
  exact (churn_yields readable.rationale).bind_pure

theorem supersedeRequest_yields {message : SupersedeRequest} (readable : message.Readable) :
    Yields readSupersedeRequest message.encode message := by
  unfold readSupersedeRequest SupersedeRequest.encode
  simp only [List.append_assoc]
  refine (binding_yields readable.binding).bind ?_
  refine (planRefRequired_yields readable.incumbent).bind ?_
  exact (planRefRequired_yields readable.replacement).bind_pure

theorem supersedeResponse_yields {message : SupersedeResponse} (readable : message.Readable) :
    Yields readSupersedeResponse message.encode message := by
  unfold readSupersedeResponse SupersedeResponse.encode
  simp only [List.append_assoc]
  refine (part_yields (u16_finds _)).bind ?_
  refine (text_yields readable.detail).bind ?_
  refine (planRef_yields readable.incumbent).bind ?_
  exact (planRef_yields readable.replacement).bind_pure

theorem retireRequest_yields {message : RetireRequest} (readable : message.Readable) :
    Yields readRetireRequest message.encode message :=
  (binding_yields readable.binding).bind (planRefRequired_yields readable.plan).bind_pure

theorem retireResponse_yields {message : RetireResponse} (readable : message.Readable) :
    Yields readRetireResponse message.encode message := by
  unfold readRetireResponse RetireResponse.encode
  simp only [List.append_assoc]
  refine (part_yields (u16_finds _)).bind ?_
  refine (text_yields readable.detail).bind ?_
  refine (planRef_yields readable.plan).bind ?_
  exact (state_yields message.state).bind_pure

theorem queryRequest_yields {message : QueryRequest} (valid : message.plan.valid = true) :
    Yields readQueryRequest message.encode message :=
  (planRefRequired_yields valid).bind (part_yields (boolean_finds _)).bind_pure

theorem queryResponse_yields {message : QueryResponse} (readable : message.Readable) :
    Yields readQueryResponse message.encode message.received := by
  have record : (decodePlan (encodePlan message.plan)).toOption = some message.plan.durable := by
    rw [decodePlan_of_readable readable.plan]
    rfl
  unfold readQueryResponse QueryResponse.encode
  simp only [List.append_assoc]
  refine (part_yields (u16_finds _)).bind ?_
  refine (text_yields readable.detail).bind ?_
  refine (part_yields (u16_finds _)).bind ?_
  refine Yields.guarded (accept_yields (applicability_listed message.applicability)) ?_
  refine (blob_yields readable.explanation).bind ?_
  refine (blob_yields readable.record).finish ?_
  exact Yields.guarded (accept_yields record) (Yields.pure _)

theorem errorResponse_yields {message : ErrorResponse} (readable : message.Readable) :
    Yields readErrorResponse message.encode message :=
  (part_yields (u16_finds _)).bind (text_yields readable).bind_pure

/-! The allocation of an incumbent. -/

theorem carriedShare_yields {share : PathShare} (readable : share.Readable) :
    Yields readCarriedShare (Writer.carriedShare share) share.carried := by
  unfold readCarriedShare Writer.carriedShare
  simp only [List.append_assoc]
  refine (requiredId_yields readable.1 _ _).bind ?_
  refine (requiredGen_yields readable.2 _ _).bind ?_
  refine (i64_yields _ _).bind ?_
  exact (i64_yields _ _).bind_pure

theorem carriedDemand_yields {demand : DemandAllocation} (readable : demand.Readable) :
    Yields readCarriedDemand (Writer.carriedDemand demand) demand.carried := by
  unfold readCarriedDemand Writer.carriedDemand
  simp only [List.append_assoc]
  refine (requiredId_yields readable.named.1 _ _).bind ?_
  refine (requiredGen_yields readable.named.2 _ _).bind ?_
  refine (i64_yields _ _).bind ?_
  refine (i64_yields _ _).bind ?_
  refine (i64_yields _ _).bind ?_
  refine (i64_yields _ _).bind ?_
  refine (i64_yields _ _).bind ?_
  refine (i64_yields _ _).bind ?_
  exact (bounded_yields readable.count (by decide) _ _ fun share member =>
    carriedShare_yields (readable.shares share member)).bind_pure

theorem carriedAllocation_yields {allocation : Allocation}
    (few : allocation.demands.length ≤ Limits.maxDemands)
    (readable : ∀ demand ∈ allocation.demands, demand.Readable) :
    Yields readCarriedAllocation (encodeAllocation allocation) allocation.carried := by
  unfold readCarriedAllocation encodeAllocation
  simp only [List.append_assoc]
  refine (need_yields (u16_finds _) _ _).bind ?_
  refine Yields.guarded (refuse_yields (by decide) _ _) ?_
  refine (bounded_yields few (by decide) _ _ fun demand member =>
    carriedDemand_yields (readable demand member)).bind ?_
  refine (i64_yields _ _).bind ?_
  refine (i64_yields _ _).bind ?_
  exact (need_yields (boolean_finds _) _ _).bind_pure

end Wire

end TrafficFabric
