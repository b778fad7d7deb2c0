import TrafficFabric.Canonical

set_option autoImplicit false

namespace TrafficFabric

/-! Collection digests. -/

namespace Writer

def interval (interval : TimeInterval) : List UInt8 :=
  u64 interval.startTick ++ u64 interval.endTick ++ boolean interval.openEnded

def labels (items : List (Text × Text)) : List UInt8 :=
  sequence (fun label => str label.1 ++ str label.2) items

/-- What the collection digests read of a provenance. -/
def evidence (provenance : Provenance) : List UInt8 :=
  digest provenance.evidenceDigest ++ str provenance.source.str ++
    u64 provenance.sourceGeneration

def demand (demand : Demand) : List UInt8 :=
  str demand.id.str ++ u64 demand.generation.value ++ str demand.tenant.str ++
    str demand.serviceClass.str ++ i64 demand.minimumBandwidth ++ i64 demand.desiredBandwidth ++
    i64 demand.maximumBandwidth ++ u8 demand.priority ++ optional i64 demand.latencyBoundMicros ++
    optional i64 demand.pathCostCeiling ++ str demand.candidateSet.id.str ++
    u64 demand.candidateSet.generation.value ++ ids demand.allowedPaths ++
    ids demand.forbiddenPaths ++ ids demand.affinity ++ ids demand.antiAffinity ++
    ids demand.requiredFailureDomains ++ u32 demand.minDistinctFailureDomains ++
    ids demand.reservationBindings ++ interval demand.effective ++ u8 demand.preemptibility.code ++
    labels demand.labels ++ evidence demand.provenance ++ u64 demand.provenance.observedTick

def path (path : CandidatePath) : List UInt8 :=
  str path.id.str ++ u64 path.generation.value ++ str path.authority.id.str ++
    u64 path.authority.generation.value ++ str path.candidateSet.id.str ++
    u64 path.candidateSet.generation.value ++ ids path.resources ++ ids path.failureDomains ++
    strings path.policyLabels ++ i64 path.cost ++ optional i64 path.latencyMicros ++
    u8 path.scope.code ++ str path.scopeTenant.str ++ str path.scopeServiceClass.str ++
    evidence path.provenance ++ u64 path.provenance.observedTick

def resource (resource : FabricResource) : List UInt8 :=
  str resource.id.str ++ u64 resource.generation.value ++ i64 resource.usableCapacity ++
    i64 resource.committedLoad ++ ids resource.failureDomains ++ evidence resource.provenance ++
    u64 resource.provenance.observedTick

def reservation (reservation : Reservation) : List UInt8 :=
  str reservation.id.str ++ u64 reservation.generation.value ++ ids reservation.paths ++
    ids reservation.resources ++ i64 reservation.bandwidth ++ u8 reservation.preemptibility.code ++
    u8 reservation.priority ++ str reservation.owner.str ++ interval reservation.effective ++
    evidence reservation.provenance ++ u64 reservation.provenance.observedTick

def policy (policy : Policy) : List UInt8 :=
  str policy.id.str ++ u64 policy.generation.value ++ boolean policy.allowPreemption ++
    boolean policy.requireMinimums ++ boolean policy.allowDegradedCommit ++
    boolean policy.requireFailureDomainDiversity ++ i64 policy.maxUtilizationPermille ++
    i64 policy.churnImprovementThresholdPermille ++ i64 policy.churnMaxMovedBandwidthPermille ++
    i64 policy.churnMaxOperationalRiskPermille ++ u32 policy.churnMaxAffectedDemands ++
    u32 policy.maxPathsPerDemand ++ ids policy.allowedTenants ++ ids policy.allowedServiceClasses ++
    evidence policy.provenance

def objectiveProfile (profile : ObjectiveProfile) : List UInt8 :=
  str profile.id.str ++ u64 profile.generation.value ++
    sequence (fun term : ObjectiveWeight => u16 term.term.code ++ i64 term.weight) profile.terms ++
    evidence profile.provenance

end Writer

def demandSetDigest (demands : List Demand) : Digest :=
  digestWithDomain (text "tef.demands.v1") (Writer.sequence Writer.demand demands)

def candidateSetDigest (paths : List CandidatePath) : Digest :=
  digestWithDomain (text "tef.candidate-set.v1") (Writer.sequence Writer.path paths)

def resourceCatalogDigest (resources : List FabricResource) : Digest :=
  digestWithDomain (text "tef.resources.v1") (Writer.sequence Writer.resource resources)

def reservationSetDigest (reservations : List Reservation) : Digest :=
  digestWithDomain (text "tef.reservations.v1") (Writer.sequence Writer.reservation reservations)

def policyDigest (policy : Policy) : Digest :=
  digestWithDomain (text "tef.policy.v1") (Writer.policy policy)

def objectiveProfileDigest (profile : ObjectiveProfile) : Digest :=
  digestWithDomain (text "tef.objective.v1") (Writer.objectiveProfile profile)

/-! The authority vector. -/

/-- The exact generations and contents a plan is computed from. -/
structure AuthorityVector where
  fabricEpoch : Gen .fabricEpoch := default
  topologyGeneration : Gen .topology := default
  linkStateGeneration : Gen .linkState := default
  pathAuthorityGeneration : Gen .pathAuthority := default
  failureDomainGeneration : Gen .failureDomain := default
  capacity : CapacitySnapshotRef := default
  reservations : ReservationSnapshotRef := default
  policy : PolicyRef := default
  objective : ObjectiveProfileRef := default
  candidateSet : CandidateSetRef := default
  demandSetDigest : Digest := default
  candidateSetDigest : Digest := default
  resourceCatalogDigest : Digest := default
  reservationSetDigest : Digest := default
  policyDigest : Digest := default
  objectiveDigest : Digest := default
deriving DecidableEq, Inhabited

namespace AuthorityVector

def valid (authority : AuthorityVector) : Bool :=
  authority.fabricEpoch.valid && authority.topologyGeneration.valid &&
    authority.linkStateGeneration.valid && authority.pathAuthorityGeneration.valid &&
    authority.failureDomainGeneration.valid && authority.capacity.valid &&
    authority.reservations.valid && authority.policy.valid && authority.objective.valid &&
    authority.candidateSet.valid

open Writer in
def digest (authority : AuthorityVector) : Digest :=
  digestWithDomain (text "tef.authority.v1")
    (u64 authority.fabricEpoch.value ++ u64 authority.topologyGeneration.value ++
      u64 authority.linkStateGeneration.value ++ u64 authority.pathAuthorityGeneration.value ++
      u64 authority.failureDomainGeneration.value ++
      str authority.capacity.id.str ++ u64 authority.capacity.generation.value ++
      str authority.reservations.id.str ++ u64 authority.reservations.generation.value ++
      str authority.policy.id.str ++ u64 authority.policy.generation.value ++
      str authority.objective.id.str ++ u64 authority.objective.generation.value ++
      str authority.candidateSet.id.str ++ u64 authority.candidateSet.generation.value ++
      Writer.digest authority.demandSetDigest ++ Writer.digest authority.candidateSetDigest ++
      Writer.digest authority.resourceCatalogDigest ++
      Writer.digest authority.reservationSetDigest ++ Writer.digest authority.policyDigest ++
      Writer.digest authority.objectiveDigest)

end AuthorityVector

def authorityOf (snapshot : FabricSnapshot) : AuthorityVector :=
  { fabricEpoch := snapshot.fabricEpoch
    topologyGeneration := snapshot.topologyGeneration
    linkStateGeneration := snapshot.linkStateGeneration
    pathAuthorityGeneration := snapshot.pathAuthorityGeneration
    failureDomainGeneration := snapshot.failureDomainGeneration
    capacity := ⟨snapshot.capacity.id, snapshot.capacity.generation⟩
    reservations := ⟨snapshot.reservations.id, snapshot.reservations.generation⟩
    policy := ⟨snapshot.policy.id, snapshot.policy.generation⟩
    objective := ⟨snapshot.objective.id, snapshot.objective.generation⟩
    candidateSet := snapshot.candidateSet
    demandSetDigest := demandSetDigest snapshot.demands
    candidateSetDigest := candidateSetDigest snapshot.paths
    resourceCatalogDigest := resourceCatalogDigest snapshot.capacity.resources
    reservationSetDigest := reservationSetDigest snapshot.reservations.reservations
    policyDigest := policyDigest snapshot.policy
    objectiveDigest := objectiveProfileDigest snapshot.objective }

/-! Comparison with the live authority. -/

inductive AuthorityField
  | fabricEpoch | topologyGeneration | linkStateGeneration | pathAuthorityGeneration
  | failureDomainGeneration | capacitySnapshot | capacitySnapshotGeneration | reservationSnapshot
  | reservationSnapshotGeneration | policy | policyGeneration | objectiveProfile
  | objectiveProfileGeneration | candidateSet | candidateSetGeneration | demandSet
  | candidateSetContent | resourceCatalog | reservationSet | policyContent | objectiveContent
deriving DecidableEq, Repr

namespace AuthorityField

def code : AuthorityField → UInt16
  | fabricEpoch => 0
  | topologyGeneration => 1
  | linkStateGeneration => 2
  | pathAuthorityGeneration => 3
  | failureDomainGeneration => 4
  | capacitySnapshot => 5
  | capacitySnapshotGeneration => 6
  | reservationSnapshot => 7
  | reservationSnapshotGeneration => 8
  | policy => 9
  | policyGeneration => 10
  | objectiveProfile => 11
  | objectiveProfileGeneration => 12
  | candidateSet => 13
  | candidateSetGeneration => 14
  | demandSet => 15
  | candidateSetContent => 16
  | resourceCatalog => 17
  | reservationSet => 18
  | policyContent => 19
  | objectiveContent => 20

def toText : AuthorityField → Text
  | fabricEpoch => text "fabric_epoch"
  | topologyGeneration => text "topology_generation"
  | linkStateGeneration => text "link_state_generation"
  | pathAuthorityGeneration => text "path_authority_generation"
  | failureDomainGeneration => text "failure_domain_generation"
  | capacitySnapshot => text "capacity_snapshot_id"
  | capacitySnapshotGeneration => text "capacity_snapshot_generation"
  | reservationSnapshot => text "reservation_snapshot_id"
  | reservationSnapshotGeneration => text "reservation_snapshot_generation"
  | policy => text "policy_id"
  | policyGeneration => text "policy_generation"
  | objectiveProfile => text "objective_profile_id"
  | objectiveProfileGeneration => text "objective_profile_generation"
  | candidateSet => text "candidate_set_id"
  | candidateSetGeneration => text "candidate_set_generation"
  | demandSet => text "demand_set_content"
  | candidateSetContent => text "candidate_set_content"
  | resourceCatalog => text "resource_catalog_content"
  | reservationSet => text "reservation_set_content"
  | policyContent => text "policy_content"
  | objectiveContent => text "objective_content"

end AuthorityField

/-- `advanced`: the live input is strictly newer. `regressed`: it is strictly older.
`conflicting`: another identity or another content. -/
structure AuthorityDelta where
  advanced : List AuthorityField := []
  regressed : List AuthorityField := []
  conflicting : List AuthorityField := []
deriving DecidableEq

namespace AuthorityDelta

def identical (delta : AuthorityDelta) : Bool :=
  delta.advanced.isEmpty && delta.regressed.isEmpty && delta.conflicting.isEmpty

def stale (delta : AuthorityDelta) : Bool := !delta.advanced.isEmpty

def contradictory (delta : AuthorityDelta) : Bool :=
  !delta.regressed.isEmpty || !delta.conflicting.isEmpty

def labelled (out label : Text) (fields : List AuthorityField) : Text :=
  if fields.isEmpty then out
  else (if out.isEmpty then out else out ++ text "; ") ++ label ++ text "=[" ++
    List.intercalate (text ",") (fields.map AuthorityField.toText) ++ text "]"

def describe (delta : AuthorityDelta) : Text :=
  let out := labelled (labelled (labelled [] (text "advanced") delta.advanced)
    (text "regressed") delta.regressed) (text "conflicting") delta.conflicting
  if out.isEmpty then text "identical" else out

def normalize (fields : List AuthorityField) : List AuthorityField :=
  sortUnique (fun field => field.code.toNat) fields

end AuthorityDelta

def advanced {kind : GenKind} (live bound : Gen kind) : Bool :=
  live.valid && bound.valid && decide (bound.value < live.value)

def regressed {kind : GenKind} (live bound : Gen kind) : Bool :=
  live.valid && bound.valid && decide (live.value < bound.value)

def compareGeneration {kind : GenKind} (live bound : Gen kind) (field : AuthorityField)
    (delta : AuthorityDelta) : AuthorityDelta :=
  if advanced live bound then { delta with advanced := delta.advanced ++ [field] }
  else if regressed live bound then { delta with regressed := delta.regressed ++ [field] }
  else delta

def compareRef {id : IdKind} {generation : GenKind} (live bound : Ref id generation)
    (idField generationField : AuthorityField) (delta : AuthorityDelta) : AuthorityDelta :=
  if !bound.valid then delta
  else if !live.valid then { delta with conflicting := delta.conflicting ++ [idField] }
  else
    compareGeneration live.generation bound.generation generationField
      (if !(live.id == bound.id) then { delta with conflicting := delta.conflicting ++ [idField] }
        else delta)

def compareDigest (live bound : Digest) (field : AuthorityField) (delta : AuthorityDelta) :
    AuthorityDelta :=
  if bound.isZero && live.isZero then delta
  else if !(live == bound) then { delta with conflicting := delta.conflicting ++ [field] }
  else delta

/-- The comparisons in the order of the source, before the field lists are normalized. -/
def compareFields (bound live : AuthorityVector) : AuthorityDelta :=
  let delta : AuthorityDelta := {}
  let delta := compareGeneration live.fabricEpoch bound.fabricEpoch .fabricEpoch delta
  let delta := compareGeneration live.topologyGeneration bound.topologyGeneration
    .topologyGeneration delta
  let delta := compareGeneration live.linkStateGeneration bound.linkStateGeneration
    .linkStateGeneration delta
  let delta := compareGeneration live.pathAuthorityGeneration bound.pathAuthorityGeneration
    .pathAuthorityGeneration delta
  let delta := compareGeneration live.failureDomainGeneration bound.failureDomainGeneration
    .failureDomainGeneration delta
  let delta := compareRef live.capacity bound.capacity .capacitySnapshot
    .capacitySnapshotGeneration delta
  let delta := compareRef live.reservations bound.reservations .reservationSnapshot
    .reservationSnapshotGeneration delta
  let delta := compareRef live.policy bound.policy .policy .policyGeneration delta
  let delta := compareRef live.objective bound.objective .objectiveProfile
    .objectiveProfileGeneration delta
  let delta := compareRef live.candidateSet bound.candidateSet .candidateSet
    .candidateSetGeneration delta
  let delta := compareDigest live.demandSetDigest bound.demandSetDigest .demandSet delta
  let delta := compareDigest live.candidateSetDigest bound.candidateSetDigest
    .candidateSetContent delta
  let delta := compareDigest live.resourceCatalogDigest bound.resourceCatalogDigest
    .resourceCatalog delta
  let delta := compareDigest live.reservationSetDigest bound.reservationSetDigest
    .reservationSet delta
  let delta := compareDigest live.policyDigest bound.policyDigest .policyContent delta
  compareDigest live.objectiveDigest bound.objectiveDigest .objectiveContent delta

def compareAuthority (bound live : AuthorityVector) : AuthorityDelta :=
  let delta := compareFields bound live
  { advanced := AuthorityDelta.normalize delta.advanced
    regressed := AuthorityDelta.normalize delta.regressed
    conflicting := AuthorityDelta.normalize delta.conflicting }

end TrafficFabric
