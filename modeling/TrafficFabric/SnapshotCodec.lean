import TrafficFabric.Authority
import TrafficFabric.PlanCodec

set_option autoImplicit false

/- The payload of a snapshot. The entries it lists are read by functions that only say whether
they failed; `decode_snapshot` names the entry. -/
namespace TrafficFabric

def Preemptibility.all : List Preemptibility :=
  [notPreemptible, preemptibleWithAuthority, preemptible]

def EligibilityScope.all : List EligibilityScope := [fabricWide, tenant, serviceClass]

/-- The reader of an entry: what fails is not told apart. -/
abbrev Entry (α : Type) := Decoder UInt8 Unit α

namespace SnapshotCodec

/-! Encoding. -/

open Writer (u8 u16 u32 u64 i64 boolean str digest ids strings optional interval labels sequence)

def writeProvenance (provenance : Provenance) : List UInt8 :=
  str provenance.source.str ++ u64 provenance.sourceGeneration ++ u64 provenance.observedTick ++
    digest provenance.evidenceDigest ++ str provenance.detail

def writeResource (resource : FabricResource) : List UInt8 :=
  str resource.id.str ++ u64 resource.generation.value ++ i64 resource.usableCapacity ++
    i64 resource.committedLoad ++ ids resource.failureDomains ++ writeProvenance resource.provenance

def writeReservation (reservation : Reservation) : List UInt8 :=
  str reservation.id.str ++ u64 reservation.generation.value ++ ids reservation.paths ++
    ids reservation.resources ++ i64 reservation.bandwidth ++ u8 reservation.preemptibility.code ++
    u8 reservation.priority ++ str reservation.owner.str ++ interval reservation.effective ++
    writeProvenance reservation.provenance

def writePath (path : CandidatePath) : List UInt8 :=
  str path.id.str ++ u64 path.generation.value ++ str path.authority.id.str ++
    u64 path.authority.generation.value ++ str path.candidateSet.id.str ++
    u64 path.candidateSet.generation.value ++ ids path.resources ++ ids path.failureDomains ++
    strings path.policyLabels ++ i64 path.cost ++ optional i64 path.latencyMicros ++
    u8 path.scope.code ++ str path.scopeTenant.str ++ str path.scopeServiceClass.str ++
    writeProvenance path.provenance

def writeDemand (demand : Demand) : List UInt8 :=
  str demand.id.str ++ u64 demand.generation.value ++ writeProvenance demand.provenance ++
    str demand.tenant.str ++ str demand.serviceClass.str ++ i64 demand.minimumBandwidth ++
    i64 demand.desiredBandwidth ++ i64 demand.maximumBandwidth ++ u8 demand.priority ++
    optional i64 demand.latencyBoundMicros ++ optional i64 demand.pathCostCeiling ++
    str demand.candidateSet.id.str ++ u64 demand.candidateSet.generation.value ++
    ids demand.allowedPaths ++ ids demand.forbiddenPaths ++ ids demand.affinity ++
    ids demand.antiAffinity ++ ids demand.requiredFailureDomains ++
    u32 demand.minDistinctFailureDomains ++ ids demand.reservationBindings ++
    interval demand.effective ++ u8 demand.preemptibility.code ++ labels demand.labels

def writePolicy (policy : Policy) : List UInt8 :=
  str policy.id.str ++ u64 policy.generation.value ++ writeProvenance policy.provenance ++
    boolean policy.allowPreemption ++ boolean policy.requireMinimums ++
    boolean policy.allowDegradedCommit ++ boolean policy.requireFailureDomainDiversity ++
    i64 policy.maxUtilizationPermille ++ i64 policy.churnImprovementThresholdPermille ++
    i64 policy.churnMaxMovedBandwidthPermille ++ i64 policy.churnMaxOperationalRiskPermille ++
    u32 policy.churnMaxAffectedDemands ++ u32 policy.maxPathsPerDemand ++
    ids policy.allowedTenants ++ ids policy.allowedServiceClasses

def writeTerm (entry : ObjectiveWeight) : List UInt8 := u16 entry.term.code ++ i64 entry.weight

def writeObjective (profile : ObjectiveProfile) : List UInt8 :=
  str profile.id.str ++ u64 profile.generation.value ++ writeProvenance profile.provenance ++
    sequence writeTerm profile.terms

/-- The five generations of the fabric, behind the format version. -/
def writeHeader (snapshot : FabricSnapshot) : List UInt8 :=
  u16 durableFormatVersion ++ u64 snapshot.fabricEpoch.value ++ u64 snapshot.topologyGeneration.value ++
    u64 snapshot.linkStateGeneration.value ++ u64 snapshot.pathAuthorityGeneration.value ++
    u64 snapshot.failureDomainGeneration.value ++ writeProvenance snapshot.provenance

def writeCapacity (capacity : CapacitySnapshot) : List UInt8 :=
  str capacity.id.str ++ u64 capacity.generation.value ++ u64 capacity.fabricEpoch.value ++
    writeProvenance capacity.provenance ++ sequence writeResource capacity.resources

def writeReservations (reservations : ReservationSnapshot) : List UInt8 :=
  str reservations.id.str ++ u64 reservations.generation.value ++ u64 reservations.fabricEpoch.value ++
    writeProvenance reservations.provenance ++ sequence writeReservation reservations.reservations

end SnapshotCodec

open SnapshotCodec in
def encodeSnapshot (snapshot : FabricSnapshot) : List UInt8 :=
  writeHeader snapshot ++ writeCapacity snapshot.capacity ++ writeReservations snapshot.reservations ++
    writePolicy snapshot.policy ++ writeObjective snapshot.objective ++ Writer.ref snapshot.candidateSet ++
    Writer.sequence writeDemand snapshot.demands ++ Writer.sequence writePath snapshot.paths ++
    Writer.u64 snapshot.evaluationTick

/-! Decoding. -/

namespace SnapshotCodec

open Reader (u8 u16 u32 u64 i64 boolean str digest)
open PlanCodec (bounded requiredId requiredGen)

/-- `if (!read) return false`. -/
def part {α : Type} (read : Reader α) : Entry α := fun bytes =>
  match read bytes with
  | none => .error ()
  | some pair => .ok pair

/-- `if (!value) return false`. -/
def accept {α : Type} (value : Option α) : Entry α :=
  match value with
  | none => throw ()
  | some value => pure value

def readId {kind : IdKind} : Entry (Id kind) := do
  let name ← part (str Limits.maxNameLength)
  accept (Id.parse name)

def readGen {kind : GenKind} : Entry (Gen kind) := do
  let value ← part u64
  accept (Gen.parse value)

/-- An empty name stands for no identity. -/
def readOptionalId {kind : IdKind} : Entry (Id kind) := do
  let name ← part (str Limits.maxNameLength)
  if name.isEmpty then pure default else accept (Id.parse name)

def readRef {id : IdKind} {generation : GenKind} : Entry (Ref id generation) := do
  let name ← readId
  let value ← readGen
  pure ⟨name, value⟩

/-- A count, its bound and then that many elements. -/
def readCounted {α : Type} (limit : Nat) (element : Entry α) : Entry (List α) := do
  let count ← part u32
  if limit < count.toNat then throw () else element.repeated count.toNat

def readIds {kind : IdKind} (limit : Nat) : Entry (List (Id kind)) := readCounted limit readId

def readText : Entry Text := part (str Limits.maxTextLength)

def readStrings (limit : Nat) : Entry (List Text) := readCounted limit readText

def readLabel : Entry (Text × Text) := do
  let key ← part (str Limits.maxNameLength)
  let value ← readText
  pure (key, value)

def readLabels : Entry (List (Text × Text)) := readCounted (Limits.maxConstraintRefs * 4) readLabel

def readPresent : Entry (Option Int) := do
  let value ← part i64
  pure (some value)

/-- A quantity behind the flag that announces it. -/
def readOptional : Entry (Option Int) := do
  let present ← part boolean
  if present then readPresent else pure none

def readInterval : Entry TimeInterval := do
  let startTick ← part u64
  let endTick ← part u64
  let openEnded ← part boolean
  pure ⟨startTick, endTick, openEnded⟩

def readPreemptibility : Entry Preemptibility := do
  let code ← part u8
  accept (ofCode Preemptibility.all Preemptibility.code code)

def readScope : Entry EligibilityScope := do
  let code ← part u8
  accept (ofCode EligibilityScope.all EligibilityScope.code code)

def readProvenance : Entry Provenance := do
  let source ← readId
  let sourceGeneration ← part u64
  let observedTick ← part u64
  let evidenceDigest ← part digest
  let detail ← readText
  pure
    { source := source
      sourceGeneration := sourceGeneration
      observedTick := observedTick
      evidenceDigest := evidenceDigest
      detail := detail }

def readResource : Entry FabricResource := do
  let id ← readId
  let generation ← readGen
  let usableCapacity ← part i64
  let committedLoad ← part i64
  let failureDomains ← readIds Limits.maxDomainsPerPath
  let provenance ← readProvenance
  pure
    { id := id
      generation := generation
      provenance := provenance
      usableCapacity := usableCapacity
      committedLoad := committedLoad
      failureDomains := failureDomains }

def readReservation : Entry Reservation := do
  let id ← readId
  let generation ← readGen
  let paths ← readIds Limits.maxConstraintRefs
  let resources ← readIds Limits.maxResourcesPerPath
  let bandwidth ← part i64
  let preemptibility ← readPreemptibility
  let priority ← part u8
  let owner ← readOptionalId
  let effective ← readInterval
  let provenance ← readProvenance
  pure
    { id := id
      generation := generation
      provenance := provenance
      paths := paths
      resources := resources
      bandwidth := bandwidth
      preemptibility := preemptibility
      priority := priority
      owner := owner
      effective := effective }

def readPath : Entry CandidatePath := do
  let id ← readId
  let generation ← readGen
  let authority ← readRef
  let candidateSet ← readRef
  let resources ← readIds Limits.maxResourcesPerPath
  let failureDomains ← readIds Limits.maxDomainsPerPath
  let policyLabels ← readStrings (Limits.maxConstraintRefs * 2)
  let cost ← part i64
  let latencyMicros ← readOptional
  let scope ← readScope
  let scopeTenant ← readOptionalId
  let scopeServiceClass ← readOptionalId
  let provenance ← readProvenance
  pure
    { id := id
      generation := generation
      authority := authority
      candidateSet := candidateSet
      resources := resources
      failureDomains := failureDomains
      policyLabels := policyLabels
      cost := cost
      latencyMicros := latencyMicros
      scope := scope
      scopeTenant := scopeTenant
      scopeServiceClass := scopeServiceClass
      provenance := provenance }

def readDemand : Entry Demand := do
  let id ← readId
  let generation ← readGen
  let provenance ← readProvenance
  let tenant ← readOptionalId
  let serviceClass ← readOptionalId
  let minimumBandwidth ← part i64
  let desiredBandwidth ← part i64
  let maximumBandwidth ← part i64
  let priority ← part u8
  let latencyBoundMicros ← readOptional
  let pathCostCeiling ← readOptional
  let candidateSet ← readRef
  let allowedPaths ← readIds Limits.maxConstraintRefs
  let forbiddenPaths ← readIds Limits.maxConstraintRefs
  let affinity ← readIds Limits.maxConstraintRefs
  let antiAffinity ← readIds Limits.maxConstraintRefs
  let requiredFailureDomains ← readIds Limits.maxDomainsPerPath
  let minDistinctFailureDomains ← part u32
  let reservationBindings ← readIds Limits.maxConstraintRefs
  let effective ← readInterval
  let preemptibility ← readPreemptibility
  let labels ← readLabels
  pure
    { id := id
      generation := generation
      provenance := provenance
      tenant := tenant
      serviceClass := serviceClass
      minimumBandwidth := minimumBandwidth
      desiredBandwidth := desiredBandwidth
      maximumBandwidth := maximumBandwidth
      priority := priority
      latencyBoundMicros := latencyBoundMicros
      pathCostCeiling := pathCostCeiling
      candidateSet := candidateSet
      allowedPaths := allowedPaths
      forbiddenPaths := forbiddenPaths
      affinity := affinity
      antiAffinity := antiAffinity
      requiredFailureDomains := requiredFailureDomains
      minDistinctFailureDomains := minDistinctFailureDomains
      reservationBindings := reservationBindings
      effective := effective
      preemptibility := preemptibility
      labels := labels }

def readPolicy : Entry Policy := do
  let id ← readId
  let generation ← readGen
  let provenance ← readProvenance
  let allowPreemption ← part boolean
  let requireMinimums ← part boolean
  let allowDegradedCommit ← part boolean
  let requireFailureDomainDiversity ← part boolean
  let maxUtilizationPermille ← part i64
  let churnImprovementThresholdPermille ← part i64
  let churnMaxMovedBandwidthPermille ← part i64
  let churnMaxOperationalRiskPermille ← part i64
  let churnMaxAffectedDemands ← part u32
  let maxPathsPerDemand ← part u32
  let allowedTenants ← readIds (Limits.maxConstraintRefs * 4)
  let allowedServiceClasses ← readIds (Limits.maxConstraintRefs * 4)
  pure
    { id := id
      generation := generation
      provenance := provenance
      allowPreemption := allowPreemption
      requireMinimums := requireMinimums
      allowDegradedCommit := allowDegradedCommit
      requireFailureDomainDiversity := requireFailureDomainDiversity
      maxUtilizationPermille := maxUtilizationPermille
      churnImprovementThresholdPermille := churnImprovementThresholdPermille
      churnMaxMovedBandwidthPermille := churnMaxMovedBandwidthPermille
      churnMaxOperationalRiskPermille := churnMaxOperationalRiskPermille
      churnMaxAffectedDemands := churnMaxAffectedDemands
      maxPathsPerDemand := maxPathsPerDemand
      allowedTenants := allowedTenants
      allowedServiceClasses := allowedServiceClasses }

/-- Both fields are read before the ordinal is looked at. -/
def readTerm : Entry ObjectiveWeight := do
  let ordinal ← part u16
  let weight ← part u64
  let term ← accept (ofCode ObjectiveTerm.all ObjectiveTerm.code ordinal)
  pure ⟨term, Reader.signed weight, Reader.signed_fits weight⟩

def readObjective : Entry ObjectiveProfile := do
  let id ← readId
  let generation ← readGen
  let provenance ← readProvenance
  let terms ← readCounted 16 readTerm
  pure
    { id := id
      generation := generation
      provenance := provenance
      terms := terms }

/-- `if (!read(entry)) return fail_as(malformed_input, detail)`. -/
def entry {α : Type} (read : Entry α) (detail : String) : Decoding α := fun bytes =>
  match read bytes with
  | .error () => fail .malformedInput (text detail)
  | .ok pair => .ok pair

/-- The part of a snapshot before its capacities. -/
def readHeader : Decoding FabricSnapshot := do
  let version ← need u16 .truncatedInput "snapshot version is truncated"
  refuse (version != durableFormatVersion) .unsupportedVersion "unsupported snapshot format version"
  let fabricEpoch ← requiredGen "fabric epoch is truncated" "fabric epoch is zero"
  let topologyGeneration ← requiredGen "topology generation is truncated" "topology generation is zero"
  let linkStateGeneration ← requiredGen "link-state generation is truncated" "link-state generation is zero"
  let pathAuthorityGeneration ← requiredGen "path authority generation is truncated"
    "path authority generation is zero"
  let failureDomainGeneration ← requiredGen "failure-domain generation is truncated"
    "failure-domain generation is zero"
  let provenance ← entry readProvenance "snapshot provenance is malformed"
  pure
    { fabricEpoch := fabricEpoch
      topologyGeneration := topologyGeneration
      linkStateGeneration := linkStateGeneration
      pathAuthorityGeneration := pathAuthorityGeneration
      failureDomainGeneration := failureDomainGeneration
      provenance := provenance }

def readCapacity : Decoding CapacitySnapshot := do
  let id ← requiredId "capacity snapshot id is malformed" "capacity snapshot id is invalid"
  let generation ← requiredGen "capacity snapshot generation is truncated"
    "capacity snapshot generation is zero"
  let fabricEpoch ← requiredGen "capacity snapshot epoch is truncated" "capacity snapshot epoch is zero"
  let provenance ← entry readProvenance "capacity snapshot provenance is malformed"
  let resources ← bounded Limits.maxResources "resource count is truncated"
    "resource count exceeds the supported bound" (entry readResource "resource entry is malformed")
  pure
    { id := id
      generation := generation
      fabricEpoch := fabricEpoch
      provenance := provenance
      resources := resources }

def readReservations : Decoding ReservationSnapshot := do
  let id ← requiredId "reservation snapshot id is malformed" "reservation snapshot id is invalid"
  let generation ← requiredGen "reservation snapshot generation is truncated"
    "reservation snapshot generation is zero"
  let fabricEpoch ← requiredGen "reservation snapshot epoch is truncated"
    "reservation snapshot epoch is zero"
  let provenance ← entry readProvenance "reservation snapshot provenance is malformed"
  let reservations ← bounded Limits.maxReservations "reservation count is truncated"
    "reservation count exceeds the supported bound"
    (entry readReservation "reservation entry is malformed")
  pure
    { id := id
      generation := generation
      fabricEpoch := fabricEpoch
      provenance := provenance
      reservations := reservations }

def readSnapshot : Decoding FabricSnapshot := do
  let header ← readHeader
  let capacity ← readCapacity
  let reservations ← readReservations
  let policy ← entry readPolicy "policy is malformed"
  let objective ← entry readObjective "objective profile is malformed"
  let candidateSet ← entry readRef "candidate set reference is malformed"
  let demands ← bounded Limits.maxDemands "demand count is truncated"
    "demand count exceeds the supported bound" (entry readDemand "demand entry is malformed")
  let paths ← bounded Limits.maxTotalCandidatePaths "candidate path count is truncated"
    "candidate path count exceeds the supported bound"
    (entry readPath "candidate path entry is malformed")
  let evaluationTick ← need u64 .truncatedInput "evaluation tick is truncated"
  pure
    { header with
      capacity := capacity
      reservations := reservations
      policy := policy
      objective := objective
      candidateSet := candidateSet
      demands := demands
      paths := paths
      evaluationTick := evaluationTick }

end SnapshotCodec

/-- What is read is validated as it stands and canonicalized afterwards. -/
def decodeSnapshot (payload : List UInt8) : Result FabricSnapshot := do
  let snapshot ← decodeWhole SnapshotCodec.readSnapshot "snapshot payload has trailing bytes" payload
  validateStructure snapshot
  pure (canonicalize snapshot)

end TrafficFabric
