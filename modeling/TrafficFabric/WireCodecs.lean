import TrafficFabric.ProtocolRoundTrip

set_option autoImplicit false

/- All payloads of the protocol: each is decoded to the message that was encoded, and neither a
part of it nor an extension of it is accepted. -/
namespace TrafficFabric

namespace Wire

open Reader (u8_stable u16_stable u32_stable u64_stable i64_stable boolean_stable digest_stable str_stable
  raw_stable)
open PlanCodec (bounded_stable requiredId_stable requiredGen_stable)

/-! Readers look no further than the end of what they read. -/

theorem part_stable {α : Type} {read : Reader α} (stable : read.Stable) : Stable (part read) :=
  need_stable stable _ _

theorem accept_stable {α : Type} (value : Option α) : Stable (accept value) := parsed_stable _ _ _

theorem readId_stable {kind : IdKind} : Stable (readId : Decoding (Id kind)) :=
  (part_stable (str_stable _)).bind fun _ => accept_stable _

theorem readGen_stable {kind : GenKind} : Stable (readGen : Decoding (Gen kind)) :=
  (part_stable u64_stable).bind fun _ => accept_stable _

theorem readBoot_stable : Stable readBoot := (part_stable (raw_stable _)).bind fun _ => Stable.pure _

theorem readText_stable : Stable readText := part_stable (str_stable _)

theorem readBlob_stable : Stable readBlob := part_stable (str_stable _)

theorem readPlanRef_stable : Stable readPlanRef := by
  refine Stable.bind ?_ fun _ => Stable.bind ?_ fun _ => Stable.pure _
  · exact (part_stable (str_stable _)).bind fun _ => Stable.ite (Stable.pure _) (accept_stable _)
  · exact (part_stable u64_stable).bind fun _ => Stable.ite (accept_stable _) (Stable.pure _)

theorem readPlanRefRequired_stable : Stable readPlanRefRequired :=
  readPlanRef_stable.bind fun _ => (refuse_stable _ _ _).bind fun _ => Stable.pure _

theorem readState_stable : Stable readState := (part_stable u16_stable).bind fun _ => accept_stable _

theorem readCommitGeneration_stable : Stable readCommitGeneration :=
  (part_stable u64_stable).bind fun _ => Stable.ite (accept_stable _) (Stable.pure _)

theorem readBinding_stable : Stable readBinding := by
  refine readId_stable.bind fun _ => readBoot_stable.bind fun _ => readGen_stable.bind fun _ => ?_
  refine (part_stable u64_stable).bind fun _ => readId_stable.bind fun _ => ?_
  exact readGen_stable.bind fun _ => Stable.pure _

theorem readChurn_stable : Stable readChurn := by
  unfold readChurn
  refine (part_stable u8_stable).bind fun _ => (accept_stable _).bind fun _ => ?_
  repeat' first
    | exact part_stable i64_stable
    | exact part_stable u32_stable
    | exact readText_stable
    | exact Stable.pure _
    | refine Stable.bind ?_ fun _ => ?_

theorem readHelloRequest_stable : Stable readHelloRequest :=
  (part_stable u16_stable).bind fun _ => Stable.pure _

theorem readHelloResponse_stable : Stable readHelloResponse := by
  refine (part_stable u16_stable).bind fun _ => (part_stable u64_stable).bind fun _ => ?_
  refine readGen_stable.bind fun _ => readBoot_stable.bind fun _ => ?_
  exact (part_stable boolean_stable).bind fun _ => Stable.pure _

theorem readRegisterPublisherRequest_stable : Stable readRegisterPublisherRequest := by
  refine readId_stable.bind fun _ => readBoot_stable.bind fun _ => readGen_stable.bind fun _ => ?_
  exact (part_stable u64_stable).bind fun _ => readText_stable.bind fun _ => Stable.pure _

theorem readRegisterPublisherResponse_stable : Stable readRegisterPublisherResponse := by
  refine (part_stable boolean_stable).bind fun _ => (part_stable boolean_stable).bind fun _ => ?_
  refine (part_stable u64_stable).bind fun _ => readGen_stable.bind fun _ => ?_
  exact readText_stable.bind fun _ => Stable.pure _

theorem readPlanRequest_stable : Stable readPlanRequest := by
  refine readBinding_stable.bind fun _ => readId_stable.bind fun _ => readBlob_stable.bind fun _ => ?_
  refine (part_stable boolean_stable).bind fun _ => (part_stable boolean_stable).bind fun _ => ?_
  exact readBlob_stable.bind fun _ => readPlanRef_stable.bind fun _ => Stable.pure _

theorem readPlanResponse_stable : Stable readPlanResponse := by
  refine (part_stable u16_stable).bind fun _ => readText_stable.bind fun _ =>
    readPlanRef_stable.bind fun _ => ?_
  refine (part_stable u16_stable).bind fun _ => (part_stable u16_stable).bind fun _ => ?_
  refine (part_stable u16_stable).bind fun _ => (accept_stable _).bind fun _ => ?_
  refine (accept_stable _).bind fun _ => (accept_stable _).bind fun _ => ?_
  refine (part_stable i64_stable).bind fun _ => (part_stable digest_stable).bind fun _ => ?_
  refine (part_stable digest_stable).bind fun _ => (part_stable (str_stable _)).bind fun _ => ?_
  exact (part_stable boolean_stable).bind fun _ => readPlanRef_stable.bind fun _ => Stable.pure _

theorem readCommitRequest_stable : Stable readCommitRequest := by
  refine readBinding_stable.bind fun _ => readPlanRefRequired_stable.bind fun _ => ?_
  exact readId_stable.bind fun _ => readGen_stable.bind fun _ => Stable.pure _

theorem readCommitResponse_stable : Stable readCommitResponse := by
  refine (part_stable u16_stable).bind fun _ => readText_stable.bind fun _ =>
    readPlanRef_stable.bind fun _ => ?_
  refine readState_stable.bind fun _ => readCommitGeneration_stable.bind fun _ => ?_
  refine (part_stable digest_stable).bind fun _ => (part_stable boolean_stable).bind fun _ => ?_
  exact readChurn_stable.bind fun _ => Stable.pure _

theorem readSupersedeRequest_stable : Stable readSupersedeRequest := by
  refine readBinding_stable.bind fun _ => readPlanRefRequired_stable.bind fun _ => ?_
  exact readPlanRefRequired_stable.bind fun _ => Stable.pure _

theorem readSupersedeResponse_stable : Stable readSupersedeResponse := by
  refine (part_stable u16_stable).bind fun _ => readText_stable.bind fun _ => ?_
  exact readPlanRef_stable.bind fun _ => readPlanRef_stable.bind fun _ => Stable.pure _

theorem readRetireRequest_stable : Stable readRetireRequest :=
  readBinding_stable.bind fun _ => readPlanRefRequired_stable.bind fun _ => Stable.pure _

theorem readRetireResponse_stable : Stable readRetireResponse := by
  refine (part_stable u16_stable).bind fun _ => readText_stable.bind fun _ => ?_
  exact readPlanRef_stable.bind fun _ => readState_stable.bind fun _ => Stable.pure _

theorem readQueryRequest_stable : Stable readQueryRequest :=
  readPlanRefRequired_stable.bind fun _ => (part_stable boolean_stable).bind fun _ => Stable.pure _

theorem readQueryResponse_stable : Stable readQueryResponse := by
  refine (part_stable u16_stable).bind fun _ => readText_stable.bind fun _ => ?_
  refine (part_stable u16_stable).bind fun _ => (accept_stable _).bind fun _ => ?_
  refine readBlob_stable.bind fun _ => readBlob_stable.bind fun _ => ?_
  exact (accept_stable _).bind fun _ => Stable.pure _

theorem readErrorResponse_stable : Stable readErrorResponse :=
  (part_stable u16_stable).bind fun _ => readText_stable.bind fun _ => Stable.pure _

theorem readCarriedShare_stable : Stable readCarriedShare := by
  refine (requiredId_stable _ _).bind fun _ => (requiredGen_stable _ _).bind fun _ => ?_
  exact (need_stable i64_stable _ _).bind fun _ => (need_stable i64_stable _ _).bind fun _ => Stable.pure _

theorem readCarriedDemand_stable : Stable readCarriedDemand := by
  unfold readCarriedDemand
  refine (requiredId_stable _ _).bind fun _ => (requiredGen_stable _ _).bind fun _ => ?_
  repeat' first
    | exact need_stable i64_stable _ _
    | exact bounded_stable readCarriedShare_stable _ _ _
    | exact Stable.pure _
    | refine Stable.bind ?_ fun _ => ?_

theorem readCarriedAllocation_stable : Stable readCarriedAllocation := by
  refine (need_stable u16_stable _ _).bind fun _ => (refuse_stable _ _ _).bind fun _ => ?_
  refine (bounded_stable readCarriedDemand_stable _ _ _).bind fun _ => ?_
  refine (need_stable i64_stable _ _).bind fun _ => (need_stable i64_stable _ _).bind fun _ => ?_
  exact (need_stable boolean_stable _ _).bind fun _ => Stable.pure _

end Wire

/-! What the encoders leave out is read back at its default. -/

def ObjectiveComponent.written (component : ObjectiveComponent) : ObjectiveComponent :=
  { component with unit := component.term.toText }

def RejectedAlternative.written (alternative : RejectedAlternative) : RejectedAlternative :=
  { alternative with alternativeScore := 0 }

/-- The churn report of a plan record; a message carries the whole report. -/
def ChurnReport.written (churn : ChurnReport) : ChurnReport :=
  { churn with
    requiredImprovementPermille := 0
    totalBandwidth := 0
    maxMovedPermille := 0
    maxAffectedDemands := 0 }

def Plan.written (plan : Plan) : Plan :=
  { plan with
    feasibility := { plan.feasibility with bindingTruncated := false }
    churn := plan.churn.written
    components := plan.components.map ObjectiveComponent.written
    alternatives := plan.alternatives.map RejectedAlternative.written }

def PathShare.written (share : PathShare) : PathShare :=
  { path := share.path
    generation := share.generation
    granted := share.granted
    reserved := share.reserved }

def DemandAllocation.written (demand : DemandAllocation) : DemandAllocation :=
  { demand := demand.demand
    generation := demand.generation
    minimum := demand.minimum
    desired := demand.desired
    maximum := demand.maximum
    granted := demand.granted
    reserved := demand.reserved
    effective := demand.effective
    shares := demand.shares.map PathShare.written }

def Allocation.written (allocation : Allocation) : Allocation :=
  { demands := allocation.demands.map DemandAllocation.written
    totalGranted := allocation.totalGranted
    totalReserved := allocation.totalReserved
    degraded := allocation.degraded }

structure ChurnReport.Native (churn : ChurnReport) : Prop where
  incumbentScore : InInt64 churn.incumbentScore
  proposalScore : InInt64 churn.proposalScore
  improvementPermille : InInt64 churn.improvementPermille
  requiredImprovementPermille : InInt64 churn.requiredImprovementPermille
  movedBandwidth : InInt64 churn.movedBandwidth
  totalBandwidth : InInt64 churn.totalBandwidth
  movedPermille : InInt64 churn.movedPermille
  maxMovedPermille : InInt64 churn.maxMovedPermille
  operationalRiskPermille : InInt64 churn.operationalRiskPermille

structure ObjectiveComponent.Native (component : ObjectiveComponent) : Prop where
  weight : InInt64 component.weight
  raw : InInt64 component.raw
  weighted : InInt64 component.weighted

/-- Every quantity of the plan is one its 64-bit variable can hold. -/
structure Plan.Native (plan : Plan) : Prop where
  allocation : plan.allocation.Native
  binding : ∀ constraint ∈ plan.feasibility.binding, constraint.Native
  churn : plan.churn.Native
  objectiveScore : InInt64 plan.objectiveScore
  components : ∀ component ∈ plan.components, component.Native
  alternatives : ∀ alternative ∈ plan.alternatives, InInt64 alternative.delta

theorem ChurnReport.Native.received_eq {churn : ChurnReport} (native : churn.Native) :
    churn.received = churn := by
  unfold ChurnReport.received
  rw [wrap64_eq native.incumbentScore, wrap64_eq native.proposalScore,
    wrap64_eq native.improvementPermille, wrap64_eq native.requiredImprovementPermille,
    wrap64_eq native.movedBandwidth, wrap64_eq native.totalBandwidth, wrap64_eq native.movedPermille,
    wrap64_eq native.maxMovedPermille, wrap64_eq native.operationalRiskPermille]

theorem ChurnReport.Native.durable_eq {churn : ChurnReport} (native : churn.Native) :
    churn.durable = churn.written := by
  unfold ChurnReport.durable ChurnReport.written
  rw [wrap64_eq native.incumbentScore, wrap64_eq native.proposalScore,
    wrap64_eq native.improvementPermille, wrap64_eq native.movedBandwidth,
    wrap64_eq native.movedPermille, wrap64_eq native.operationalRiskPermille]

theorem ObjectiveComponent.Native.durable_eq {component : ObjectiveComponent} (native : component.Native) :
    component.durable = component.written := by
  unfold ObjectiveComponent.durable ObjectiveComponent.written
  rw [wrap64_eq native.weight, wrap64_eq native.raw, wrap64_eq native.weighted]

theorem RejectedAlternative.durable_eq {alternative : RejectedAlternative}
    (native : InInt64 alternative.delta) :
    alternative.durable = alternative.written := by
  unfold RejectedAlternative.durable RejectedAlternative.written
  rw [wrap64_eq native]

theorem Plan.Native.durable_eq {plan : Plan} (native : plan.Native) (whole : plan.Whole) :
    plan.durable = plan.written := by
  have binding : plan.feasibility.binding.map BindingConstraint.durable = plan.feasibility.binding :=
    map_durable fun constraint member => (native.binding constraint member).durable_eq
  have components : plan.components.map ObjectiveComponent.durable =
      plan.components.map ObjectiveComponent.written :=
    List.map_congr_left fun component member => (native.components component member).durable_eq
  have alternatives : plan.alternatives.map RejectedAlternative.durable =
      plan.alternatives.map RejectedAlternative.written :=
    List.map_congr_left fun alternative member =>
      RejectedAlternative.durable_eq (native.alternatives alternative member)
  unfold Plan.durable Plan.written FeasibilityResult.durable
  rw [native.allocation.durable_eq, binding, native.churn.durable_eq, wrap64_eq native.objectiveScore,
    components, alternatives, whole.supersedes.durable_eq, whole.supersededBy.durable_eq,
    whole.commitGeneration_eq]

theorem PathShare.Native.carried_eq {share : PathShare} (native : share.Native) :
    share.carried = share.written := by
  unfold PathShare.carried PathShare.written
  rw [wrap64_eq native.granted, wrap64_eq native.reserved]

theorem DemandAllocation.Native.carried_eq {demand : DemandAllocation} (native : demand.Native) :
    demand.carried = demand.written := by
  have shares : demand.shares.map PathShare.carried = demand.shares.map PathShare.written :=
    List.map_congr_left fun share member => (native.shares share member).carried_eq
  unfold DemandAllocation.carried DemandAllocation.written
  rw [shares, wrap64_eq native.minimum, wrap64_eq native.desired, wrap64_eq native.maximum,
    wrap64_eq native.granted, wrap64_eq native.reserved, wrap64_eq native.effective]

theorem Allocation.Native.carried_eq {allocation : Allocation} (native : allocation.Native) :
    allocation.carried = allocation.written := by
  have demands : allocation.demands.map DemandAllocation.carried =
      allocation.demands.map DemandAllocation.written :=
    List.map_congr_left fun demand member => (native.demands demand member).carried_eq
  unfold Allocation.carried Allocation.written
  rw [demands, wrap64_eq native.totalGranted, wrap64_eq native.totalReserved]

/-! All payloads. -/

inductive Payload
  | helloRequest (message : HelloRequest)
  | helloResponse (message : HelloResponse)
  | registerPublisherRequest (message : RegisterPublisherRequest)
  | registerPublisherResponse (message : RegisterPublisherResponse)
  | planRequest (message : PlanRequest)
  | planResponse (message : PlanResponse)
  | commitRequest (message : CommitRequest)
  | commitResponse (message : CommitResponse)
  | supersedeRequest (message : SupersedeRequest)
  | supersedeResponse (message : SupersedeResponse)
  | retireRequest (message : RetireRequest)
  | retireResponse (message : RetireResponse)
  | queryRequest (message : QueryRequest)
  | queryResponse (message : QueryResponse)
  | errorResponse (message : ErrorResponse)
  | allocation (allocation : Allocation)

namespace Payload

def encode : Payload → List UInt8
  | helloRequest message => message.encode
  | helloResponse message => message.encode
  | registerPublisherRequest message => message.encode
  | registerPublisherResponse message => message.encode
  | planRequest message => message.encode
  | planResponse message => message.encode
  | commitRequest message => message.encode
  | commitResponse message => message.encode
  | supersedeRequest message => message.encode
  | supersedeResponse message => message.encode
  | retireRequest message => message.encode
  | retireResponse message => message.encode
  | queryRequest message => message.encode
  | queryResponse message => message.encode
  | errorResponse message => message.encode
  | allocation incumbent => encodeAllocation incumbent

/-- The decoder for payloads of the same kind. -/
def decodeLike : Payload → List UInt8 → Result Payload
  | helloRequest _, bytes => (decodeHelloRequest bytes).map helloRequest
  | helloResponse _, bytes => (decodeHelloResponse bytes).map helloResponse
  | registerPublisherRequest _, bytes =>
      (decodeRegisterPublisherRequest bytes).map registerPublisherRequest
  | registerPublisherResponse _, bytes =>
      (decodeRegisterPublisherResponse bytes).map registerPublisherResponse
  | planRequest _, bytes => (decodePlanRequest bytes).map planRequest
  | planResponse _, bytes => (decodePlanResponse bytes).map planResponse
  | commitRequest _, bytes => (decodeCommitRequest bytes).map commitRequest
  | commitResponse _, bytes => (decodeCommitResponse bytes).map commitResponse
  | supersedeRequest _, bytes => (decodeSupersedeRequest bytes).map supersedeRequest
  | supersedeResponse _, bytes => (decodeSupersedeResponse bytes).map supersedeResponse
  | retireRequest _, bytes => (decodeRetireRequest bytes).map retireRequest
  | retireResponse _, bytes => (decodeRetireResponse bytes).map retireResponse
  | queryRequest _, bytes => (decodeQueryRequest bytes).map queryRequest
  | queryResponse _, bytes => (decodeQueryResponse bytes).map queryResponse
  | errorResponse _, bytes => (decodeErrorResponse bytes).map errorResponse
  | allocation _, bytes => (decodeAllocation bytes).map allocation

/-- Mandatory identities and generations are valid, plan references are set or absent as a whole,
and what is written stays within the bounds of the decoder. -/
def Readable : Payload → Prop
  | helloRequest _ => True
  | helloResponse message => message.coordinatorIncarnation.valid = true
  | registerPublisherRequest message => message.Readable
  | registerPublisherResponse message => message.Readable
  | planRequest message => message.Readable
  | planResponse message => message.Readable
  | commitRequest message => message.Readable
  | commitResponse message => message.Readable
  | supersedeRequest message => message.Readable
  | supersedeResponse message => message.Readable
  | retireRequest message => message.Readable
  | retireResponse message => message.Readable
  | queryRequest message => message.plan.valid = true
  | queryResponse message => message.Readable ∧ message.plan.Whole
  | errorResponse message => message.Readable
  | allocation incumbent => incumbent.demands.length ≤ Limits.maxDemands ∧
      ∀ demand ∈ incumbent.demands, demand.Readable

/-- Every quantity is one its 64-bit variable can hold. -/
def Native : Payload → Prop
  | planResponse message => InInt64 message.objectiveScore
  | commitResponse message => message.churn.Native
  | queryResponse message => message.plan.Native
  | allocation incumbent => incumbent.Native
  | _ => True

/-- The payload with the fields its encoder leaves out at their defaults. -/
def written : Payload → Payload
  | queryResponse message => queryResponse { message with plan := message.plan.written }
  | allocation incumbent => allocation incumbent.written
  | payload => payload

end Payload

/-- What one decoder makes of one encoding: it reads the value back, and accepts nothing shorter
or longer. -/
structure Recovers {α : Type} (decode : List UInt8 → Result α) (image : List UInt8) (value : α) : Prop where
  read : decode image = .ok value
  exact : Exact decode image

theorem Recovers.of_yields {α : Type} {decoder : Decoding α} {image : List UInt8} {value : α}
    (yields : Yields decoder image value) (stable : Stable decoder) (trailing : String) :
    Recovers (decodeWhole decoder trailing) image value := by
  have read := decodeWhole_of_yields yields trailing
  exact ⟨read, decodeWhole_exact stable read⟩

theorem Recovers.map {α β : Type} {decode : List UInt8 → Result α} {image : List UInt8} {value : α}
    (recovers : Recovers decode image value) (wrap : α → β) :
    Recovers (fun bytes => (decode bytes).map wrap) image (wrap value) := by
  refine ⟨by rw [recovers.read]; rfl, ?_, ?_⟩
  · intro part more split longer
    obtain ⟨reason, refused⟩ := recovers.exact.shorter part more split longer
    exact ⟨reason, by rw [refused]; rfl⟩
  · intro more longer
    obtain ⟨reason, refused⟩ := recovers.exact.longer more longer
    exact ⟨reason, by rw [refused]; rfl⟩

open Wire in
/-- Every payload within the bounds of its decoder is read back on every field its encoder writes,
and no part and no extension of it is accepted. -/
theorem Payload.recovered (payload : Payload) (readable : payload.Readable) (native : payload.Native) :
    payload.decodeLike payload.encode = .ok payload.written ∧ Exact payload.decodeLike payload.encode := by
  have recovers : Recovers payload.decodeLike payload.encode payload.written := by
    cases payload with
    | helloRequest message =>
        exact (Recovers.of_yields (helloRequest_yields message) readHelloRequest_stable _).map _
    | helloResponse message =>
        exact (Recovers.of_yields (helloResponse_yields readable) readHelloResponse_stable _).map _
    | registerPublisherRequest message =>
        exact (Recovers.of_yields (registerPublisherRequest_yields readable)
          readRegisterPublisherRequest_stable _).map _
    | registerPublisherResponse message =>
        exact (Recovers.of_yields (registerPublisherResponse_yields readable)
          readRegisterPublisherResponse_stable _).map _
    | planRequest message =>
        exact (Recovers.of_yields (planRequest_yields readable) readPlanRequest_stable _).map _
    | planResponse message =>
        have same : message.received = message := by
          unfold PlanResponse.received
          rw [wrap64_eq native]
        have yields := planResponse_yields readable
        rw [same] at yields
        exact (Recovers.of_yields yields readPlanResponse_stable _).map _
    | commitRequest message =>
        exact (Recovers.of_yields (commitRequest_yields readable) readCommitRequest_stable _).map _
    | commitResponse message =>
        have same : message.received = message := by
          unfold CommitResponse.received
          rw [ChurnReport.Native.received_eq native]
        have yields := commitResponse_yields readable
        rw [same] at yields
        exact (Recovers.of_yields yields readCommitResponse_stable _).map _
    | supersedeRequest message =>
        exact (Recovers.of_yields (supersedeRequest_yields readable) readSupersedeRequest_stable _).map _
    | supersedeResponse message =>
        exact (Recovers.of_yields (supersedeResponse_yields readable) readSupersedeResponse_stable _).map _
    | retireRequest message =>
        exact (Recovers.of_yields (retireRequest_yields readable) readRetireRequest_stable _).map _
    | retireResponse message =>
        exact (Recovers.of_yields (retireResponse_yields readable) readRetireResponse_stable _).map _
    | queryRequest message =>
        exact (Recovers.of_yields (queryRequest_yields readable) readQueryRequest_stable _).map _
    | queryResponse message =>
        have same : message.received = { message with plan := message.plan.written } := by
          unfold QueryResponse.received
          rw [Plan.Native.durable_eq native readable.2]
        have yields := queryResponse_yields readable.1
        rw [same] at yields
        exact (Recovers.of_yields yields readQueryResponse_stable _).map _
    | errorResponse message =>
        exact (Recovers.of_yields (errorResponse_yields readable) readErrorResponse_stable _).map _
    | allocation incumbent =>
        have yields := carriedAllocation_yields readable.1 readable.2
        rw [Allocation.Native.carried_eq native] at yields
        exact (Recovers.of_yields yields readCarriedAllocation_stable _).map _
  exact ⟨recovers.read, recovers.exact⟩

theorem Payload.recovered_commitRequest :
    (Payload.commitRequest ⟨⟨named "planner", default, Gen.first, 1, named "attempt-1", Gen.first⟩,
        ⟨named "plan-1", Gen.first⟩, named "commit-1", Gen.first⟩).decodeLike
      (Payload.commitRequest ⟨⟨named "planner", default, Gen.first, 1, named "attempt-1", Gen.first⟩,
        ⟨named "plan-1", Gen.first⟩, named "commit-1", Gen.first⟩).encode =
      .ok (.commitRequest ⟨⟨named "planner", default, Gen.first, 1, named "attempt-1", Gen.first⟩,
        ⟨named "plan-1", Gen.first⟩, named "commit-1", Gen.first⟩) :=
  (Payload.recovered (.commitRequest _)
    ⟨⟨by decide, by decide, by decide, by decide⟩, by decide, by decide, by decide⟩ trivial).1

end TrafficFabric
