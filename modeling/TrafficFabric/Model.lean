import TrafficFabric.Digest
import TrafficFabric.Numeric

set_option autoImplicit false

namespace TrafficFabric

structure Provenance where
  source : SourceSystemId := default
  sourceGeneration : UInt64 := 0
  observedTick : UInt64 := 0
  evidenceDigest : Digest := default
  detail : Text := []
deriving DecidableEq, Inhabited

def Provenance.valid (provenance : Provenance) : Bool := provenance.source.valid

/-- Half-open tick interval `[start, end)`, or `[start, ∞)` when open ended. -/
structure TimeInterval where
  startTick : UInt64 := 0
  endTick : UInt64 := 0
  openEnded : Bool := true
deriving DecidableEq, Inhabited

def TimeInterval.covers (interval : TimeInterval) (tick : UInt64) : Bool :=
  if tick < interval.startTick then false
  else if interval.openEnded then true
  else decide (tick < interval.endTick)

inductive Preemptibility
  | notPreemptible | preemptibleWithAuthority | preemptible
deriving DecidableEq, Repr, Inhabited

def Preemptibility.code : Preemptibility → UInt8
  | .notPreemptible => 0
  | .preemptibleWithAuthority => 1
  | .preemptible => 2

structure Demand where
  id : DemandId := default
  generation : Gen .demand := default
  provenance : Provenance := default
  tenant : TenantId := default
  serviceClass : ServiceClassId := default
  minimumBandwidth : Int := 0
  desiredBandwidth : Int := 0
  maximumBandwidth : Int := 0
  priority : UInt8 := 0
  latencyBoundMicros : Option Int := none
  pathCostCeiling : Option Int := none
  candidateSet : CandidateSetRef := default
  allowedPaths : List PathId := []
  forbiddenPaths : List PathId := []
  affinity : List DemandId := []
  antiAffinity : List DemandId := []
  requiredFailureDomains : List FailureDomainId := []
  minDistinctFailureDomains : UInt32 := 0
  reservationBindings : List ReservationId := []
  effective : TimeInterval := default
  preemptibility : Preemptibility := .notPreemptible
  labels : List (Text × Text) := []
deriving DecidableEq, Inhabited

inductive EligibilityScope
  | fabricWide | tenant | serviceClass
deriving DecidableEq, Repr, Inhabited

def EligibilityScope.code : EligibilityScope → UInt8
  | .fabricWide => 0
  | .tenant => 1
  | .serviceClass => 2

/-- What the planner reads of a candidate path: everything but its provenance. -/
structure PathFacts where
  id : PathId := default
  generation : Gen .path := default
  authority : PathAuthorityRef := default
  candidateSet : CandidateSetRef := default
  resources : List ResourceId := []
  failureDomains : List FailureDomainId := []
  policyLabels : List Text := []
  cost : Int := 0
  latencyMicros : Option Int := none
  scope : EligibilityScope := .fabricWide
  scopeTenant : TenantId := default
  scopeServiceClass : ServiceClassId := default
deriving DecidableEq, Inhabited

structure CandidatePath extends PathFacts where
  provenance : Provenance := default
deriving DecidableEq, Inhabited

structure FabricResource where
  id : ResourceId := default
  generation : Gen .resource := default
  provenance : Provenance := default
  usableCapacity : Int := 0
  committedLoad : Int := 0
  failureDomains : List FailureDomainId := []
deriving DecidableEq, Inhabited

structure CapacitySnapshot where
  id : CapacitySnapshotId := default
  generation : Gen .capacitySnapshot := default
  fabricEpoch : Gen .fabricEpoch := default
  provenance : Provenance := default
  resources : List FabricResource := []
deriving DecidableEq, Inhabited

structure Reservation where
  id : ReservationId := default
  generation : Gen .reservation := default
  provenance : Provenance := default
  paths : List PathId := []
  resources : List ResourceId := []
  bandwidth : Int := 0
  preemptibility : Preemptibility := .notPreemptible
  priority : UInt8 := 0
  owner : DemandId := default
  effective : TimeInterval := default
deriving DecidableEq, Inhabited

structure ReservationSnapshot where
  id : ReservationSnapshotId := default
  generation : Gen .reservationSnapshot := default
  fabricEpoch : Gen .fabricEpoch := default
  provenance : Provenance := default
  reservations : List Reservation := []
deriving DecidableEq, Inhabited

structure Policy where
  id : PolicyId := default
  generation : Gen .policy := default
  provenance : Provenance := default
  allowPreemption : Bool := false
  requireMinimums : Bool := true
  allowDegradedCommit : Bool := false
  requireFailureDomainDiversity : Bool := false
  maxUtilizationPermille : Int := 1000
  churnImprovementThresholdPermille : Int := 0
  churnMaxMovedBandwidthPermille : Int := 1000
  churnMaxOperationalRiskPermille : Int := 1000
  churnMaxAffectedDemands : UInt32 := 0
  maxPathsPerDemand : UInt32 := 0
  allowedTenants : List TenantId := []
  allowedServiceClasses : List ServiceClassId := []
deriving DecidableEq, Inhabited

inductive ObjectiveTerm
  | satisfyMinimums | minimizeMaxUtilization | minimizeCongestionExposure | minimizeTotalPathCost
  | minimizeChurn | preserveReservations | preservePriority | maximizeDesiredBandwidth
  | fairnessAcrossGroups | minimizeFailureDomainConcentration | minimizePathCount
deriving DecidableEq, Repr, Inhabited

def ObjectiveTerm.code : ObjectiveTerm → UInt16
  | .satisfyMinimums => 0
  | .minimizeMaxUtilization => 1
  | .minimizeCongestionExposure => 2
  | .minimizeTotalPathCost => 3
  | .minimizeChurn => 4
  | .preserveReservations => 5
  | .preservePriority => 6
  | .maximizeDesiredBandwidth => 7
  | .fairnessAcrossGroups => 8
  | .minimizeFailureDomainConcentration => 9
  | .minimizePathCount => 10

def ObjectiveTerm.toText : ObjectiveTerm → Text
  | .satisfyMinimums => text "satisfy_minimums"
  | .minimizeMaxUtilization => text "minimize_max_utilization"
  | .minimizeCongestionExposure => text "minimize_congestion_exposure"
  | .minimizeTotalPathCost => text "minimize_total_path_cost"
  | .minimizeChurn => text "minimize_churn"
  | .preserveReservations => text "preserve_reservations"
  | .preservePriority => text "preserve_priority"
  | .maximizeDesiredBandwidth => text "maximize_desired_bandwidth"
  | .fairnessAcrossGroups => text "fairness_across_groups"
  | .minimizeFailureDomainConcentration => text "minimize_failure_domain_concentration"
  | .minimizePathCount => text "minimize_path_count"

/-- The weight is any 64-bit signed value; the bound is carried because nothing
validates its range. -/
structure ObjectiveWeight where
  term : ObjectiveTerm := .satisfyMinimums
  weight : Int := 1
  fits : InInt64 weight := by first | exact inInt64_one | decide
deriving DecidableEq

instance : Inhabited ObjectiveWeight := ⟨{}⟩

structure ObjectiveProfile where
  id : ObjectiveProfileId := default
  generation : Gen .objectiveProfile := default
  provenance : Provenance := default
  terms : List ObjectiveWeight := []
deriving DecidableEq, Inhabited

/-- The weight of the first entry that declares the term (`ObjectiveProfile::weight_of`). -/
def weightOf (terms : List ObjectiveWeight) (term : ObjectiveTerm) : Int :=
  match terms.find? (fun entry => entry.term == term) with
  | some entry => entry.weight
  | none => 0

/-- `ObjectiveProfile::has`, on the terms of the profile. -/
def hasTerm (terms : List ObjectiveWeight) (term : ObjectiveTerm) : Bool :=
  weightOf terms term != 0

/-- The complete authoritative input bundle. -/
structure FabricSnapshot where
  fabricEpoch : Gen .fabricEpoch := default
  topologyGeneration : Gen .topology := default
  linkStateGeneration : Gen .linkState := default
  pathAuthorityGeneration : Gen .pathAuthority := default
  failureDomainGeneration : Gen .failureDomain := default
  provenance : Provenance := default
  capacity : CapacitySnapshot := default
  reservations : ReservationSnapshot := default
  policy : Policy := default
  objective : ObjectiveProfile := default
  candidateSet : CandidateSetRef := default
  demands : List Demand := []
  paths : List CandidatePath := []
  evaluationTick : UInt64 := 0
deriving DecidableEq, Inhabited

end TrafficFabric
