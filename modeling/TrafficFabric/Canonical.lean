import TrafficFabric.Diagnostic
import TrafficFabric.Lib.OrdMap
import TrafficFabric.Lib.SortedList
import TrafficFabric.Model

set_option autoImplicit false

namespace TrafficFabric

/-! Canonicalization: every collection is sorted by its key, identity lists lose their
duplicates. Objective term order is semantic and is kept. -/

def canonicalizeDemand (demand : Demand) : Demand :=
  { demand with
    allowedPaths := sortUnique id demand.allowedPaths
    forbiddenPaths := sortUnique id demand.forbiddenPaths
    affinity := sortUnique id demand.affinity
    antiAffinity := sortUnique id demand.antiAffinity
    requiredFailureDomains := sortUnique id demand.requiredFailureDomains
    reservationBindings := sortUnique id demand.reservationBindings
    labels := sortUnique Prod.fst demand.labels }

def canonicalizePath (path : CandidatePath) : CandidatePath :=
  { path with
    resources := sortUnique id path.resources
    failureDomains := sortUnique id path.failureDomains
    policyLabels := sortUnique id path.policyLabels }

def canonicalizeResource (resource : FabricResource) : FabricResource :=
  { resource with failureDomains := sortUnique id resource.failureDomains }

def canonicalizeReservation (reservation : Reservation) : Reservation :=
  { reservation with
    paths := sortUnique id reservation.paths
    resources := sortUnique id reservation.resources }

def canonicalize (snapshot : FabricSnapshot) : FabricSnapshot :=
  { snapshot with
    demands := stableSort Demand.id (snapshot.demands.map canonicalizeDemand)
    paths := stableSort (fun path => path.id) (snapshot.paths.map canonicalizePath)
    capacity := { snapshot.capacity with
      resources := stableSort FabricResource.id
        (snapshot.capacity.resources.map canonicalizeResource) }
    reservations := { snapshot.reservations with
      reservations := stableSort Reservation.id
        (snapshot.reservations.reservations.map canonicalizeReservation) }
    policy := { snapshot.policy with
      allowedTenants := sortUnique id snapshot.policy.allowedTenants
      allowedServiceClasses := sortUnique id snapshot.policy.allowedServiceClasses } }

/-- A snapshot that canonicalization has produced. -/
def Canonical (snapshot : FabricSnapshot) : Prop := ∃ raw, canonicalize raw = snapshot

/-! Structural validation, in the order of the source: the first defect is returned. -/

def validateHeader (snapshot : FabricSnapshot) : Status := do
  require snapshot.fabricEpoch.valid .invalidGeneration (text "fabric epoch is absent")
  require snapshot.topologyGeneration.valid .invalidGeneration
    (text "topology generation is absent")
  require snapshot.linkStateGeneration.valid .invalidGeneration
    (text "link-state generation is absent")
  require snapshot.pathAuthorityGeneration.valid .invalidGeneration
    (text "path authority generation is absent")
  require snapshot.failureDomainGeneration.valid .invalidGeneration
    (text "failure-domain generation is absent")
  require snapshot.provenance.valid .missingProvenance (text "snapshot provenance is absent")
  require snapshot.candidateSet.valid .invalidGeneration
    (text "candidate set reference is incomplete")
  require (snapshot.demands.length ≤ Limits.maxDemands) .limitExceeded
    (text "demand count exceeds the supported bound")
  require (snapshot.paths.length ≤ Limits.maxTotalCandidatePaths) .limitExceeded
    (text "candidate path count exceeds the supported bound")

/-- `value < 0 || value > bound` is the defect. -/
def inRange (value bound : Int) : Bool := decide (0 ≤ value) && decide (value ≤ bound)

def optionalInRange (value : Option Int) (bound : Int) : Bool :=
  value.all fun present => inRange present bound

def validateResource (resource : FabricResource) : Status := do
  require resource.id.valid .invalidArgument (text "resource id is absent")
  require resource.generation.valid .invalidGeneration
    (text "resource generation is absent for " ++ resource.id.str)
  require resource.provenance.valid .missingProvenance
    (text "resource provenance is absent for " ++ resource.id.str)
  require (inRange resource.usableCapacity Limits.maxBandwidth) .numericInvalid
    (text "resource usable capacity is out of range for " ++ resource.id.str)
  require (inRange resource.committedLoad Limits.maxBandwidth) .numericInvalid
    (text "resource committed load is out of range for " ++ resource.id.str)
  require (resource.failureDomains.length ≤ Limits.maxDomainsPerPath) .limitExceeded
    (text "resource failure-domain membership exceeds the supported bound for " ++ resource.id.str)

/-- Identities are collected, sorted and searched for equal neighbours. -/
def requireDistinct {kind : IdKind} (ids : List (Id kind)) (detail : Text) : Status :=
  require (!adjacentFind (stableSort id ids)) .duplicateIdentity detail

def validateCapacity (snapshot : FabricSnapshot) : Status := do
  let capacity := snapshot.capacity
  require (capacity.id.valid && capacity.generation.valid) .invalidGeneration
    (text "capacity snapshot reference is incomplete")
  require capacity.provenance.valid .missingProvenance
    (text "capacity snapshot provenance is absent")
  require (capacity.fabricEpoch == snapshot.fabricEpoch) .conflictingAuthority
    (text "capacity snapshot fabric epoch does not match the snapshot epoch")
  require (capacity.resources.length ≤ Limits.maxResources) .limitExceeded
    (text "resource count exceeds the supported bound")
  checkAll validateResource capacity.resources
  requireDistinct (capacity.resources.map FabricResource.id)
    (text "duplicate resource identity in the capacity snapshot")

/-- Membership in the set of resource identities of the capacity snapshot. -/
def knownResource (snapshot : FabricSnapshot) (resource : ResourceId) : Bool :=
  (snapshot.capacity.resources.map FabricResource.id).contains resource

def validateReservation (snapshot : FabricSnapshot) (reservation : Reservation) : Status := do
  require reservation.id.valid .invalidArgument (text "reservation id is absent")
  require reservation.generation.valid .invalidGeneration
    (text "reservation generation is absent for " ++ reservation.id.str)
  require reservation.provenance.valid .missingProvenance
    (text "reservation provenance is absent for " ++ reservation.id.str)
  require (inRange reservation.bandwidth Limits.maxBandwidth) .numericInvalid
    (text "reservation bandwidth is out of range for " ++ reservation.id.str)
  checkAll (fun resource => require (knownResource snapshot resource) .unknownReference
    (text "reservation " ++ reservation.id.str ++ text " references unknown resource " ++
      resource.str)) reservation.resources

def validateReservations (snapshot : FabricSnapshot) : Status := do
  let reservations := snapshot.reservations
  require (reservations.id.valid && reservations.generation.valid) .invalidGeneration
    (text "reservation snapshot reference is incomplete")
  require reservations.provenance.valid .missingProvenance
    (text "reservation snapshot provenance is absent")
  require (reservations.fabricEpoch == snapshot.fabricEpoch) .conflictingAuthority
    (text "reservation snapshot fabric epoch does not match the snapshot epoch")
  require (reservations.reservations.length ≤ Limits.maxReservations) .limitExceeded
    (text "reservation count exceeds the supported bound")
  checkAll (validateReservation snapshot) reservations.reservations
  requireDistinct (reservations.reservations.map Reservation.id)
    (text "duplicate reservation identity")

def validatePolicy (policy : Policy) : Status := do
  require (policy.id.valid && policy.generation.valid) .invalidGeneration
    (text "policy reference is incomplete")
  require policy.provenance.valid .missingProvenance (text "policy provenance is absent")
  require (decide (0 < policy.maxUtilizationPermille) &&
      decide (policy.maxUtilizationPermille ≤ 1000)) .invalidArgument
    (text "policy max utilization must be within (0, 1000] permille")
  require (inRange policy.churnImprovementThresholdPermille 1000) .invalidArgument
    (text "policy churn improvement threshold is out of range")
  require (inRange policy.churnMaxMovedBandwidthPermille 1000) .invalidArgument
    (text "policy churn moved-bandwidth bound is out of range")
  require (inRange policy.churnMaxOperationalRiskPermille 1000) .invalidArgument
    (text "policy churn risk bound is out of range")
  require (policy.maxPathsPerDemand.toNat ≤ Limits.maxPathsPerDemand) .limitExceeded
    (text "policy path-count bound exceeds the supported bound")

/-- The loop over objective terms with its `seen` set of ordinals. -/
def validateTerms (seen : List ObjectiveTerm) : List ObjectiveWeight → Status
  | [] => .ok ()
  | entry :: rest => do
      require (entry.term.code ≤ ObjectiveTerm.minimizePathCount.code) .unsupportedObjective
        (text "objective profile declares an unknown term")
      require (entry.weight != 0) .unsupportedObjective
        (text "objective term " ++ entry.term.toText ++ text " declares a zero weight")
      require (!seen.contains entry.term) .duplicateIdentity
        (text "objective term " ++ entry.term.toText ++ text " is declared twice")
      validateTerms (entry.term :: seen) rest

def validateObjective (objective : ObjectiveProfile) : Status := do
  require (objective.id.valid && objective.generation.valid) .invalidGeneration
    (text "objective profile reference is incomplete")
  require objective.provenance.valid .missingProvenance
    (text "objective profile provenance is absent")
  require (!objective.terms.isEmpty) .unsupportedObjective
    (text "objective profile declares no terms")
  require (objective.terms.length ≤ 16) .limitExceeded
    (text "objective profile declares too many terms")
  validateTerms [] objective.terms

def validatePath (snapshot : FabricSnapshot) (path : CandidatePath) : Status := do
  require path.id.valid .invalidArgument (text "candidate path id is absent")
  require path.generation.valid .invalidGeneration
    (text "candidate path generation is absent for " ++ path.id.str)
  require path.authority.valid .invalidGeneration
    (text "path authority binding is incomplete for " ++ path.id.str)
  require (path.authority.id == path.id) .conflictingAuthority
    (text "path " ++ path.id.str ++ text " binds a path authority identity that is not its own")
  require (path.candidateSet == snapshot.candidateSet) .conflictingAuthority
    (text "path " ++ path.id.str ++ text " belongs to a different candidate set generation")
  require path.provenance.valid .missingProvenance
    (text "candidate path provenance is absent for " ++ path.id.str)
  require (!path.resources.isEmpty) .invalidArgument
    (text "candidate path " ++ path.id.str ++ text " declares no resources")
  require (path.resources.length ≤ Limits.maxResourcesPerPath) .limitExceeded
    (text "candidate path " ++ path.id.str ++ text " exceeds the resource bound")
  checkAll (fun resource => require (knownResource snapshot resource) .unknownReference
    (text "candidate path " ++ path.id.str ++ text " references unknown resource " ++
      resource.str)) path.resources
  require (path.failureDomains.length ≤ Limits.maxDomainsPerPath) .limitExceeded
    (text "candidate path " ++ path.id.str ++ text " exceeds the failure-domain bound")
  require (inRange path.cost Limits.maxCost) .numericInvalid
    (text "candidate path cost is out of range for " ++ path.id.str)
  require (optionalInRange path.latencyMicros Limits.maxLatencyMicros) .numericInvalid
    (text "candidate path latency is out of range for " ++ path.id.str)
  require (!(path.scope == .tenant && !path.scopeTenant.valid)) .invalidArgument
    (text "candidate path " ++ path.id.str ++ text " has tenant scope without a tenant")
  require (!(path.scope == .serviceClass && !path.scopeServiceClass.valid)) .invalidArgument
    (text "candidate path " ++ path.id.str ++ text " has service-class scope without a service class")

/-- `++paths_per_set[path.candidate_set.id.str()]` over all paths. -/
def pathsPerSet (paths : List CandidatePath) : OrdMap Text Nat :=
  paths.foldl (fun counts path =>
    counts.insert path.candidateSet.id.str ((counts.find? path.candidateSet.id.str).getD 0 + 1))
    OrdMap.empty

def validatePaths (snapshot : FabricSnapshot) : Status := do
  checkAll (validatePath snapshot) snapshot.paths
  requireDistinct (snapshot.paths.map (fun path => path.id))
    (text "duplicate candidate path identity")
  checkAll (fun entry : Text × Nat =>
    require (entry.2 ≤ Limits.maxPathsPerDemand * Limits.maxDemands) .limitExceeded
      (text "candidate set " ++ entry.1 ++ text " exceeds the supported bound"))
    (pathsPerSet snapshot.paths).entries

/-- Self references are cyclic, other references must name a demand of the snapshot. -/
def validateAffinity (snapshot : FabricSnapshot) (demand : Demand) (relation : Text)
    (other : DemandId) : Status := do
  require (!(other == demand.id)) .cyclicReference
    (text "demand " ++ demand.id.str ++ text " declares " ++ relation ++ text " with itself")
  require ((snapshot.demands.map Demand.id).contains other) .unknownReference
    (text "demand " ++ demand.id.str ++ text " declares " ++ relation ++
      text " with unknown demand " ++ other.str)

def validateDemand (snapshot : FabricSnapshot) (demand : Demand) : Status := do
  require demand.id.valid .invalidArgument (text "demand id is absent")
  require demand.generation.valid .invalidGeneration
    (text "demand generation is absent for " ++ demand.id.str)
  require demand.provenance.valid .missingProvenance
    (text "demand provenance is absent for " ++ demand.id.str)
  require (demand.candidateSet == snapshot.candidateSet) .conflictingAuthority
    (text "demand " ++ demand.id.str ++ text " binds a different candidate set generation")
  require (inRange demand.minimumBandwidth Limits.maxBandwidth) .numericInvalid
    (text "demand minimum bandwidth is out of range for " ++ demand.id.str)
  require (inRange demand.desiredBandwidth Limits.maxBandwidth) .numericInvalid
    (text "demand desired bandwidth is out of range for " ++ demand.id.str)
  require (inRange demand.maximumBandwidth Limits.maxBandwidth) .numericInvalid
    (text "demand maximum bandwidth is out of range for " ++ demand.id.str)
  require (demand.minimumBandwidth ≤ demand.desiredBandwidth) .numericInvalid
    (text "demand " ++ demand.id.str ++ text " has a minimum above its desired bandwidth")
  require (demand.desiredBandwidth ≤ demand.maximumBandwidth) .numericInvalid
    (text "demand " ++ demand.id.str ++ text " has a desired above its maximum bandwidth")
  require (optionalInRange demand.latencyBoundMicros Limits.maxLatencyMicros) .numericInvalid
    (text "demand latency bound is out of range for " ++ demand.id.str)
  require (optionalInRange demand.pathCostCeiling Limits.maxCost) .numericInvalid
    (text "demand path cost ceiling is out of range for " ++ demand.id.str)
  require (demand.minDistinctFailureDomains.toNat ≤ Limits.maxDomainsPerPath) .limitExceeded
    (text "demand failure-domain diversity bound exceeds the supported bound for " ++ demand.id.str)
  require (decide (demand.allowedPaths.length ≤ Limits.maxConstraintRefs) &&
      decide (demand.forbiddenPaths.length ≤ Limits.maxConstraintRefs) &&
      decide (demand.affinity.length ≤ Limits.maxConstraintRefs) &&
      decide (demand.antiAffinity.length ≤ Limits.maxConstraintRefs)) .limitExceeded
    (text "demand constraint list exceeds the supported bound for " ++ demand.id.str)
  checkAll (validateAffinity snapshot demand (text "affinity")) demand.affinity
  checkAll (validateAffinity snapshot demand (text "anti-affinity")) demand.antiAffinity
  checkAll (fun binding =>
    require ((snapshot.reservations.reservations.map Reservation.id).contains binding)
      .unknownReference
      (text "demand " ++ demand.id.str ++ text " binds unknown reservation " ++ binding.str))
    demand.reservationBindings
  checkAll (fun label : Text × Text =>
    require (!label.1.isEmpty && decide (label.1.length ≤ Limits.maxNameLength) &&
        decide (label.2.length ≤ Limits.maxTextLength)) .invalidArgument
      (text "demand " ++ demand.id.str ++ text " carries a malformed label"))
    demand.labels

def validateDemands (snapshot : FabricSnapshot) : Status := do
  checkAll (validateDemand snapshot) snapshot.demands
  requireDistinct (snapshot.demands.map Demand.id) (text "duplicate demand identity")

def validateStructure (snapshot : FabricSnapshot) : Status := do
  validateHeader snapshot
  validateCapacity snapshot
  validateReservations snapshot
  validatePolicy snapshot.policy
  validateObjective snapshot.objective
  validatePaths snapshot
  validateDemands snapshot

end TrafficFabric
