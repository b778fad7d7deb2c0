import TrafficFabric.Accepted
import TrafficFabric.PlanDecodes
import TrafficFabric.StableReaders

set_option autoImplicit false

/- The content of a plan survives its record: what is read back has the fields of the plan and
its content digest, which is taken over yet another selection of fields. -/
namespace TrafficFabric

open Writer (sequence)

namespace Writer

/-- A binding constraint in the content digest: the slack is left out. -/
def boundContent (constraint : BindingConstraint) : List UInt8 :=
  u16 constraint.kind.code.toUInt16 ++ str constraint.subject ++ str constraint.demand.str ++
    str constraint.resource.str ++ str constraint.path.str ++ i64 constraint.required ++
    i64 constraint.available ++ str constraint.detail

end Writer

open Writer in
def Plan.contentDigest (plan : Plan) : Digest :=
  digestWithDomain (text "tef.plan.v1")
    (str plan.id.str ++ u64 plan.generation.value ++ u16 plan.state.code ++
      u16 plan.applicability.code ++ str plan.attempt.str ++ u64 plan.attemptGeneration.value ++
      str plan.publisher.str ++ boot plan.publisherBoot ++ u64 plan.coordinatorIncarnation.value ++
      Writer.digest plan.authority.digest ++ Writer.digest plan.allocation.digest ++
      u16 plan.feasibility.status.code ++ str plan.feasibility.summary ++
      sequence boundContent plan.feasibility.binding ++ u8 plan.churn.decision.code ++
      i64 plan.churn.movedBandwidth ++ u32 plan.churn.demandsChanged ++ i64 plan.objectiveScore ++
      sequence component plan.components ++ sequence alternative plan.alternatives ++
      str plan.explanation.str ++ Writer.digest plan.explanationDigest ++ Writer.ref plan.supersedes ++
      Writer.ref plan.supersededBy ++ str plan.commit.str ++ u64 plan.commitGeneration.value ++
      u64 plan.committedTick)

/-! The source holds every quantity in a 64-bit integer. -/

structure PathShare.Native (share : PathShare) : Prop where
  minimum : InInt64 share.minimum
  desired : InInt64 share.desired
  granted : InInt64 share.granted
  reserved : InInt64 share.reserved
  deltaFromIncumbent : InInt64 share.deltaFromIncumbent

structure DemandAllocation.Native (demand : DemandAllocation) : Prop where
  minimum : InInt64 demand.minimum
  desired : InInt64 demand.desired
  maximum : InInt64 demand.maximum
  granted : InInt64 demand.granted
  reserved : InInt64 demand.reserved
  effective : InInt64 demand.effective
  observedApplied : InInt64 demand.observedApplied
  shortfallAgainstMinimum : InInt64 demand.shortfallAgainstMinimum
  shortfallAgainstDesired : InInt64 demand.shortfallAgainstDesired
  shares : ∀ share ∈ demand.shares, share.Native

structure ResourceUtilization.Native (resource : ResourceUtilization) : Prop where
  usableCapacity : InInt64 resource.usableCapacity
  committedLoad : InInt64 resource.committedLoad
  reserved : InInt64 resource.reserved
  available : InInt64 resource.available
  allocated : InInt64 resource.allocated
  headroom : InInt64 resource.headroom
  utilizationPermille : InInt64 resource.utilizationPermille

structure Allocation.Native (allocation : Allocation) : Prop where
  demands : ∀ demand ∈ allocation.demands, demand.Native
  resources : ∀ resource ∈ allocation.resources, resource.Native
  totalGranted : InInt64 allocation.totalGranted
  totalReserved : InInt64 allocation.totalReserved

structure BindingConstraint.Native (constraint : BindingConstraint) : Prop where
  required : InInt64 constraint.required
  available : InInt64 constraint.available
  slack : InInt64 constraint.slack

theorem map_durable {α : Type} {durable : α → α} {items : List α}
    (each : ∀ item ∈ items, durable item = item) : items.map durable = items := by
  rw [List.map_congr_left each, List.map_id']

theorem PathShare.Native.durable_eq {share : PathShare} (native : share.Native) :
    share.durable = share := by
  unfold PathShare.durable
  rw [wrap64_eq native.minimum, wrap64_eq native.desired, wrap64_eq native.granted,
    wrap64_eq native.reserved, wrap64_eq native.deltaFromIncumbent]

theorem DemandAllocation.Native.durable_eq {demand : DemandAllocation} (native : demand.Native) :
    demand.durable = demand := by
  have shares : demand.shares.map PathShare.durable = demand.shares :=
    map_durable fun share member => (native.shares share member).durable_eq
  unfold DemandAllocation.durable
  rw [shares, wrap64_eq native.minimum, wrap64_eq native.desired, wrap64_eq native.maximum,
    wrap64_eq native.granted, wrap64_eq native.reserved, wrap64_eq native.effective,
    wrap64_eq native.observedApplied, wrap64_eq native.shortfallAgainstMinimum,
    wrap64_eq native.shortfallAgainstDesired]

theorem ResourceUtilization.Native.durable_eq {resource : ResourceUtilization}
    (native : resource.Native) : resource.durable = resource := by
  unfold ResourceUtilization.durable
  rw [wrap64_eq native.usableCapacity, wrap64_eq native.committedLoad, wrap64_eq native.reserved,
    wrap64_eq native.available, wrap64_eq native.allocated, wrap64_eq native.headroom,
    wrap64_eq native.utilizationPermille]

theorem Allocation.Native.durable_eq {allocation : Allocation} (native : allocation.Native) :
    allocation.durable = allocation := by
  have demands : allocation.demands.map DemandAllocation.durable = allocation.demands :=
    map_durable fun demand member => (native.demands demand member).durable_eq
  have resources : allocation.resources.map ResourceUtilization.durable = allocation.resources :=
    map_durable fun resource member => (native.resources resource member).durable_eq
  unfold Allocation.durable
  rw [demands, resources, wrap64_eq native.totalGranted, wrap64_eq native.totalReserved]

theorem BindingConstraint.Native.durable_eq {constraint : BindingConstraint}
    (native : constraint.Native) : constraint.durable = constraint := by
  unfold BindingConstraint.durable
  rw [wrap64_eq native.required, wrap64_eq native.available, wrap64_eq native.slack]

/-! Optional references. -/

/-- Set as a whole, or as a whole at its default. -/
def Ref.Whole {id : IdKind} {generation : GenKind} (ref : Ref id generation) : Prop :=
  (ref.id.valid = true ∧ ref.generation.valid = true) ∨ ref = default

theorem Ref.Whole.durable_eq {id : IdKind} {generation : GenKind} {ref : Ref id generation}
    (whole : ref.Whole) : ref.durable = ref := by
  rcases whole with set | rfl
  · unfold Ref.durable
    rw [if_pos set.1]
  · rfl

/-! The same bytes are written of what is read back. -/

namespace Writer

theorem ofInt_signed (value : UInt64) : UInt64.ofInt (Reader.signed value) = value := by
  have bound := value.toNat_lt
  apply UInt64.toNat.inj
  unfold Reader.signed UInt64.ofInt
  rw [UInt64.toNat_ofNat']
  split <;> omega

theorem i64_wrap64 (value : Int) : i64 (wrap64 value) = i64 value :=
  congrArg u64 (ofInt_signed (UInt64.ofInt value))

theorem component_durable (component : ObjectiveComponent) :
    Writer.component component.durable = Writer.component component := by
  unfold Writer.component ObjectiveComponent.durable
  simp only [i64_wrap64]

theorem alternative_durable (alternative : RejectedAlternative) :
    Writer.alternative alternative.durable = Writer.alternative alternative := by
  unfold Writer.alternative RejectedAlternative.durable
  simp only [i64_wrap64]

theorem boundContent_durable (constraint : BindingConstraint) :
    boundContent constraint.durable = boundContent constraint := by
  unfold boundContent BindingConstraint.durable
  simp only [i64_wrap64]

end Writer

/-- The optional references of a plan, each set as a whole or absent as a whole. -/
structure Plan.Whole (plan : Plan) : Prop where
  supersedes : plan.supersedes.Whole
  supersededBy : plan.supersededBy.Whole
  commit : (plan.commit.valid = true ∧ plan.commitGeneration.valid = true) ∨
    (plan.commit = default ∧ plan.commitGeneration = default)

theorem Plan.Whole.commitGeneration_eq {plan : Plan} (whole : plan.Whole) :
    (if plan.commit.valid then plan.commitGeneration else default) = plan.commitGeneration := by
  rcases whole.commit with set | absent
  · rw [if_pos set.1]
  · rw [absent.2]
    split <;> rfl

theorem Plan.contentDigest_durable {plan : Plan} (whole : plan.Whole)
    (allocation : plan.allocation.Native) : plan.durable.contentDigest = plan.contentDigest := by
  unfold Plan.contentDigest Plan.durable FeasibilityResult.durable ChurnReport.durable
  simp only [allocation.durable_eq, whole.supersedes.durable_eq, whole.supersededBy.durable_eq,
    whole.commitGeneration_eq, Writer.i64_wrap64, Writer.sequence_map Writer.component_durable,
    Writer.sequence_map Writer.alternative_durable, Writer.sequence_map Writer.boundContent_durable]

/-- What a plan that is read back has in common with the plan that was written. -/
structure Plan.Kept (plan found : Plan) : Prop where
  authority : found.authority = plan.authority
  allocation : found.allocation = plan.allocation
  status : found.feasibility.status = plan.feasibility.status
  summary : found.feasibility.summary = plan.feasibility.summary
  binding : found.feasibility.binding = plan.feasibility.binding
  commit : found.commit = plan.commit
  commitGeneration : found.commitGeneration = plan.commitGeneration
  supersedes : found.supersedes = plan.supersedes
  supersededBy : found.supersededBy = plan.supersededBy
  committedTick : found.committedTick = plan.committedTick
  declaredTick : found.declaredTick = plan.declaredTick
  proposedTick : found.proposedTick = plan.proposedTick
  content : found.contentDigest = plan.contentDigest

theorem Plan.kept_durable {plan : Plan} (whole : plan.Whole) (allocation : plan.allocation.Native)
    (binding : ∀ constraint ∈ plan.feasibility.binding, constraint.Native) :
    plan.Kept plan.durable where
  authority := rfl
  allocation := allocation.durable_eq
  status := rfl
  summary := rfl
  binding := map_durable fun constraint member => (binding constraint member).durable_eq
  commit := rfl
  commitGeneration := whole.commitGeneration_eq
  supersedes := whole.supersedes.durable_eq
  supersededBy := whole.supersededBy.durable_eq
  committedTick := rfl
  declaredTick := rfl
  proposedTick := rfl
  content := Plan.contentDigest_durable whole allocation

/-- A plan within the bounds of the decoder is read back with its content, and neither a part of
its record nor an extension of it is taken for one. -/
theorem decodePlan_keeps {plan : Plan} (readable : plan.Readable) (whole : plan.Whole)
    (allocation : plan.allocation.Native)
    (binding : ∀ constraint ∈ plan.feasibility.binding, constraint.Native) :
    ∃ found, decodePlan (encodePlan plan) = .ok found ∧ plan.Kept found ∧
      Exact decodePlan (encodePlan plan) := by
  have read := decodePlan_of_readable readable
  exact ⟨plan.durable, read, Plan.kept_durable whole allocation binding,
    decodeWhole_exact PlanCodec.readPlan_stable read⟩

/-- A committed plan that replaced another one, with a share of one path. -/
def storedPlan : Plan :=
  { id := named "plan-1"
    generation := Gen.first
    state := .committed
    attempt := named "attempt-1"
    attemptGeneration := Gen.first
    publisher := named "planner"
    publisherBoot := ⟨Vector.replicate 16 1⟩
    coordinatorIncarnation := Gen.first
    authority :=
      { fabricEpoch := Gen.first
        topologyGeneration := Gen.first
        linkStateGeneration := Gen.first
        pathAuthorityGeneration := Gen.first
        failureDomainGeneration := Gen.first
        capacity := ⟨named "capacity-1", Gen.first⟩
        reservations := ⟨named "reservations-1", Gen.first⟩
        policy := ⟨named "policy-1", Gen.first⟩
        objective := ⟨named "objective-1", Gen.first⟩
        candidateSet := ⟨named "set-1", Gen.first⟩
        demandSetDigest := default
        candidateSetDigest := default
        resourceCatalogDigest := default
        reservationSetDigest := default
        policyDigest := default
        objectiveDigest := default }
    allocation :=
      { demands :=
          [{ demand := named "demand-1"
             generation := Gen.first
             granted := 70
             shares := [{ path := named "path-1", generation := Gen.first, granted := 70 }] }]
        totalGranted := 70 }
    supersedes := ⟨named "plan-0", Gen.first⟩
    commit := named "commit-1"
    commitGeneration := Gen.first }

theorem storedPlan_share {demand : DemandAllocation} (inside : demand ∈ storedPlan.allocation.demands)
    {share : PathShare} (member : share ∈ demand.shares) : share.Readable ∧ share.Native := by
  cases List.mem_singleton.1 inside
  cases List.mem_singleton.1 member
  exact ⟨by unfold PathShare.Readable; decide, by constructor <;> decide⟩

theorem storedPlan_readable : storedPlan.Readable := by
  constructor
  case alternatives => exact fun _ member => absurd member List.not_mem_nil
  case feasibility => exact ⟨by decide, by decide, fun _ member => absurd member List.not_mem_nil⟩
  case allocation =>
    refine ⟨by decide, ?_, by decide, fun _ member => absurd member List.not_mem_nil⟩
    intro demand member
    refine ⟨?_, ?_, fun part inside => (storedPlan_share member inside).1⟩
    all_goals
      cases List.mem_singleton.1 member
      decide
  case supersedes => exact fun _ => by decide
  case supersededBy =>
    intro present
    cases present
  all_goals decide

theorem decodePlan_keeps_stored : ∃ found, decodePlan (encodePlan storedPlan) = .ok found ∧
    storedPlan.Kept found ∧ Exact decodePlan (encodePlan storedPlan) := by
  apply decodePlan_keeps
  · exact storedPlan_readable
  · exact ⟨Or.inl (by decide), Or.inr rfl, Or.inl (by decide)⟩
  · refine ⟨?_, fun _ member => absurd member List.not_mem_nil, by decide, by decide⟩
    intro demand member
    constructor
    case shares => exact fun part inside => (storedPlan_share member inside).2
    all_goals
      cases List.mem_singleton.1 member
      decide
  · exact fun _ member => absurd member List.not_mem_nil

end TrafficFabric
