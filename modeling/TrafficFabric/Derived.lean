import TrafficFabric.Feasibility

set_option autoImplicit false

namespace TrafficFabric

structure ResourceResidual where
  resource : ResourceId := default
  generation : Gen .resource := default
  usableCapacity : Int := 0
  committedLoad : Int := 0
  reserved : Int := 0
  available : Int := 0
deriving DecidableEq, Inhabited

structure ReservationAccounting where
  reservation : ReservationId := default
  generation : Gen .reservation := default
  chargedTo : DemandId := default
  bandwidth : Int := 0
  displaceable : Bool := false
  active : Bool := true
  disposition : Text := []
deriving DecidableEq, Inhabited

structure ExcludedPath where
  path : PathId := default
  kind : ConstraintKind := .pathEligibility
  reason : Text := []
deriving DecidableEq, Inhabited

structure DemandDerivation where
  demand : DemandId := default
  generation : Gen .demand := default
  minimum : Int := 0
  floor : Int := 0
  desired : Int := 0
  maximum : Int := 0
  reservationObligation : Int := 0
  priority : UInt8 := 0
  tenant : TenantId := default
  serviceClass : ServiceClassId := default
  active : Bool := true
  eligiblePaths : List PathId := []
  excludedPaths : List ExcludedPath := []
  notes : List BindingConstraint := []
deriving DecidableEq, Inhabited

structure Derivation where
  demands : List DemandDerivation := []
  residuals : List ResourceResidual := []
  reservations : List ReservationAccounting := []
  constraints : List BindingConstraint := []
  policyExclusions : List Text := []
  anyDemandActive : Bool := false
deriving DecidableEq, Inhabited

/-- A displaceable class still needs the policy's permission, and the stronger class
needs the reservation to be attached to a demand of the snapshot. -/
def policyPermitsPreemption (policy : Policy) (preemptibility : Preemptibility)
    (attachedToDemand : Bool) : Bool :=
  if !policy.allowPreemption then false
  else
    match preemptibility with
    | .notPreemptible => false
    | .preemptible => true
    | .preemptibleWithAuthority => attachedToDemand

/-! Base residuals and reservation cover. -/

def baseResidual (resource : FabricResource) : ResourceResidual :=
  { resource := resource.id
    generation := resource.generation
    usableCapacity := resource.usableCapacity
    committedLoad := resource.committedLoad
    reserved := 0
    available := 0 }

def baseResiduals (resources : List FabricResource) : OrdMap ResourceId ResourceResidual :=
  resources.foldl (fun residuals resource => residuals.emplace resource.id (baseResidual resource))
    OrdMap.empty

/-- The lexicographically smallest demand that binds a reservation. -/
def claim (owner : OrdMap ReservationId DemandId) (demand : DemandId) (binding : ReservationId) :
    OrdMap ReservationId DemandId :=
  match owner.find? binding with
  | none => owner.insert binding demand
  | some held => if demand < held then owner.insert binding demand else owner

def bindingOwner (demands : List Demand) : OrdMap ReservationId DemandId :=
  demands.foldl (fun owner demand =>
    demand.reservationBindings.foldl (fun owner binding => claim owner demand.id binding) owner)
    OrdMap.empty

def zeroObligations (demands : List Demand) : OrdMap DemandId Int :=
  demands.foldl (fun obligation demand => obligation.emplace demand.id 0) OrdMap.empty

/-- What the reservation loop carries from one reservation to the next. -/
structure Accounting where
  residuals : OrdMap ResourceId ResourceResidual
  obligation : OrdMap DemandId Int
  reservations : List ReservationAccounting
  policyExclusions : List Text

def owned (snapshot : FabricSnapshot) (reservation : Reservation) : Bool :=
  reservation.owner.valid && (snapshot.demands.map Demand.id).contains reservation.owner

/-- The demand a non-displaceable reservation is charged to; absent when the resource
residual carries it. -/
def chargedTo (snapshot : FabricSnapshot) (reservation : Reservation) : DemandId :=
  if owned snapshot reservation then reservation.owner
  else ((bindingOwner snapshot.demands).find? reservation.id).getD Id.none

def displaceable (snapshot : FabricSnapshot) (reservation : Reservation) : Bool :=
  snapshot.policy.allowPreemption &&
    policyPermitsPreemption snapshot.policy reservation.preemptibility
      (((bindingOwner snapshot.demands).find? reservation.id).isSome || owned snapshot reservation)

/-- `sat_add` of the bandwidth into every bound resource's reserved amount. -/
def chargeResources (bandwidth : Int) (residuals : OrdMap ResourceId ResourceResidual) :
    List ResourceId → Result (OrdMap ResourceId ResourceResidual)
  | [] => .ok residuals
  | resource :: rest =>
      match residuals.find? resource with
      | none => fail .unknownReference
          (text "reservation references unknown resource " ++ resource.str)
      | some entry =>
          chargeResources bandwidth
            (residuals.insert resource { entry with reserved := satAdd entry.reserved bandwidth })
            rest

def accountReservation (snapshot : FabricSnapshot) (accounting : Accounting)
    (reservation : Reservation) : Result Accounting :=
  let base : ReservationAccounting :=
    { reservation := reservation.id
      generation := reservation.generation
      bandwidth := reservation.bandwidth
      active := reservation.effective.covers snapshot.evaluationTick
      displaceable := displaceable snapshot reservation }
  let charged := chargedTo snapshot reservation
  if !base.active then
    .ok { accounting with
      policyExclusions := accounting.policyExclusions ++
        [text "reservation " ++ reservation.id.str ++ text " is not effective at the evaluation tick"]
      reservations := accounting.reservations ++ [{ base with
        disposition := text "inactive: reservation interval does not cover the evaluation tick" }] }
  else if base.displaceable then
    .ok { accounting with
      policyExclusions := accounting.policyExclusions ++
        [text "reservation " ++ reservation.id.str ++ text " is displaceable under the active policy"]
      reservations := accounting.reservations ++ [{ base with
        disposition :=
          text "displaceable: policy allows preemption and the reserving authority marked it preemptible" }] }
  else if charged.valid then
    .ok { accounting with
      obligation := accounting.obligation.insert charged
        (satAdd ((accounting.obligation.find? charged).getD 0) reservation.bandwidth)
      reservations := accounting.reservations ++ [{ base with
        chargedTo := charged
        disposition := text "charged to demand " ++ charged.str }] }
  else do
    let residuals ← chargeResources reservation.bandwidth accounting.residuals reservation.resources
    .ok { accounting with
      residuals := residuals
      reservations := accounting.reservations ++ [{ base with
        disposition := text "reserved: charged to the resource residual" }] }

def accountReservations (snapshot : FabricSnapshot) (accounting : Accounting) :
    List Reservation → Result Accounting
  | [] => .ok accounting
  | reservation :: rest => do
      let next ← accountReservation snapshot accounting reservation
      accountReservations snapshot next rest

/-! Availability. -/

def overCommitted (entry : ResourceResidual) (claimed : Int) : BindingConstraint :=
  { kind := .reservationObligation
    subject := text "resource/" ++ entry.resource.str
    resource := entry.resource
    required := claimed
    available := entry.usableCapacity
    slack := entry.usableCapacity - claimed
    detail := text "committed load plus non-displaceable reservations exceed usable capacity" }

def availabilityOf (entry : ResourceResidual) :
    Result (ResourceResidual × List BindingConstraint) :=
  match addChecked entry.committedLoad entry.reserved with
  | none => fail .numericOverflow
      (text "resource " ++ entry.resource.str ++ text " accounting overflows")
  | some claimed =>
      if entry.usableCapacity < claimed then
        .ok ({ entry with available := 0 }, [overCommitted entry claimed])
      else .ok ({ entry with available := entry.usableCapacity - claimed }, [])

def availability : List ResourceResidual → Result (List ResourceResidual × List BindingConstraint)
  | [] => .ok ([], [])
  | entry :: rest => do
      let first ← availabilityOf entry
      let later ← availability rest
      .ok (first.1 :: later.1, first.2 ++ later.2)

/-! Per-demand derivation. -/

def containsId {kind : IdKind} (ids : List (Id kind)) (id : Id kind) : Bool := binarySearch ids id

/-- The first eligibility rule the path breaks for the demand, if any. -/
def exclusionOf (demand : Demand) (path : PathFacts) : Option (ConstraintKind × Text) :=
  if !(path.candidateSet == demand.candidateSet) then
    some (.pathEligibility, text "candidate set generation does not match the demand")
  else if !demand.allowedPaths.isEmpty && !containsId demand.allowedPaths path.id then
    some (.pathEligibility, text "path is not in the demand allow list")
  else if !demand.forbiddenPaths.isEmpty && containsId demand.forbiddenPaths path.id then
    some (.forbiddenPath, text "path is explicitly forbidden for the demand")
  else if path.scope == .tenant && !(path.scopeTenant == demand.tenant) then
    some (.pathEligibility, text "path tenant scope excludes the demand tenant")
  else if path.scope == .serviceClass && !(path.scopeServiceClass == demand.serviceClass) then
    some (.pathEligibility, text "path service-class scope excludes the demand")
  else if demand.latencyBoundMicros.isSome && path.latencyMicros.isNone then
    some (.latencyBound,
      text "demand declares a latency bound but the path carries no latency evidence")
  else if demand.latencyBoundMicros.any (fun bound => path.latencyMicros.any (fun l => bound < l)) then
    some (.latencyBound, text "path latency exceeds the demand latency bound")
  else if demand.pathCostCeiling.any (fun ceiling => ceiling < path.cost) then
    some (.pathCostCeiling, text "path cost exceeds the demand cost ceiling")
  else if !demand.requiredFailureDomains.all (fun domain => containsId path.failureDomains domain) then
    some (.failureDomainDiversity,
      text "path does not traverse every failure domain the demand requires")
  else none

def latencyOrWorst (path : PathFacts) : Int :=
  path.latencyMicros.getD (Limits.maxLatencyMicros + 1)

/-- Canonical eligibility order: cost, latency with missing evidence last, identity. -/
def pathKey (path : PathFacts) : Int ×ₗ Int ×ₗ PathId :=
  toLex (path.cost, toLex (latencyOrWorst path, path.id))

def eligibleSorted (demand : Demand) (paths : List PathFacts) : List PathFacts :=
  stableSort pathKey (paths.filter fun path => (exclusionOf demand path).isNone)

def pathLimit (policy : Policy) (eligible : Nat) : Nat :=
  if policy.maxPathsPerDemand = 0 then eligible else min eligible policy.maxPathsPerDemand.toNat

def excludedByRule (demand : Demand) (paths : List PathFacts) : List ExcludedPath :=
  paths.filterMap fun path =>
    (exclusionOf demand path).map fun reason => ⟨path.id, reason.1, reason.2⟩

def sortExcluded (excluded : List ExcludedPath) : List ExcludedPath :=
  (stableSort ExcludedPath.path excluded).destutter (· ≠ ·)

def demandNote (kind : ConstraintKind) (demand : Demand) (required available : Int)
    (detail : Text) : BindingConstraint :=
  { kind := kind
    subject := text "demand/" ++ demand.id.str
    demand := demand.id
    required := required
    available := available
    slack := available - required
    detail := detail }

def tenantExcluded (policy : Policy) (demand : Demand) : Bool :=
  !policy.allowedTenants.isEmpty && !containsId policy.allowedTenants demand.tenant

def serviceClassExcluded (policy : Policy) (demand : Demand) : Bool :=
  !policy.allowedServiceClasses.isEmpty &&
    !containsId policy.allowedServiceClasses demand.serviceClass

def tenantNote (demand : Demand) : BindingConstraint :=
  demandNote .tenantPolicy demand 0 0
    (text "the demand tenant is not permitted by the active policy")

def serviceClassNote (demand : Demand) : BindingConstraint :=
  demandNote .serviceClassPolicy demand 0 0
    (text "the demand service class is not permitted by the active policy")

/-- The part of a demand's derivation that does not depend on its being active. -/
def demandBasics (snapshot : FabricSnapshot) (obligation : OrdMap DemandId Int)
    (demand : Demand) : DemandDerivation :=
  let reservationObligation := (obligation.find? demand.id).getD 0
  let floor := max demand.minimumBandwidth reservationObligation
  { demand := demand.id
    generation := demand.generation
    minimum := demand.minimumBandwidth
    reservationObligation := reservationObligation
    floor := floor
    desired := max demand.desiredBandwidth floor
    maximum := demand.maximumBandwidth
    priority := demand.priority
    tenant := demand.tenant
    serviceClass := demand.serviceClass
    active := demand.effective.covers snapshot.evaluationTick }

def demandNotes (policy : Policy) (demand : Demand) (basics : DemandDerivation)
    (eligible limit : Nat) : List BindingConstraint :=
  (if basics.maximum < basics.floor then
    [demandNote .demandMaximum demand basics.floor basics.maximum
      (text "the demand hard floor (minimum or reservation obligation) exceeds its maximum bandwidth")]
    else []) ++
  (if tenantExcluded policy demand then [tenantNote demand] else []) ++
  (if serviceClassExcluded policy demand then [serviceClassNote demand] else []) ++
  (if limit < eligible then
    [demandNote .pathCountLimit demand eligible limit
      (text "policy path-count bound truncated the eligible path list")] else []) ++
  (if limit = 0 then
    [demandNote .pathEligibility demand basics.floor 0
      (text "the demand has no eligible candidate path under the current policy")] else [])

def deriveDemand (snapshot : FabricSnapshot) (paths : List PathFacts)
    (obligation : OrdMap DemandId Int) (demand : Demand) : DemandDerivation :=
  let basics := demandBasics snapshot obligation demand
  if !basics.active then basics
  else
    let eligible := eligibleSorted demand paths
    let limit := pathLimit snapshot.policy eligible.length
    { basics with
      eligiblePaths := (eligible.take limit).map PathFacts.id
      excludedPaths := sortExcluded (excludedByRule demand paths ++
        (eligible.drop limit).map fun path =>
          ⟨path.id, .pathCountLimit, text "excluded by the policy path-count bound"⟩)
      notes := demandNotes snapshot.policy demand basics eligible.length limit }

def demandExclusions (snapshot : FabricSnapshot) (demand : Demand) : List Text :=
  if !demand.effective.covers snapshot.evaluationTick then
    [text "demand " ++ demand.id.str ++ text " is not effective at the evaluation tick"]
  else
    (if tenantExcluded snapshot.policy demand then
      [text "demand " ++ demand.id.str ++
        text " is excluded: its tenant is not permitted by policy"] else []) ++
    (if serviceClassExcluded snapshot.policy demand then
      [text "demand " ++ demand.id.str ++
        text " is excluded: its service class is not permitted by policy"] else [])

/-- The candidate paths as the planner sees them. -/
def planningPaths (snapshot : FabricSnapshot) : List PathFacts :=
  snapshot.paths.map CandidatePath.toPathFacts

def startAccounting (snapshot : FabricSnapshot) : Accounting :=
  { residuals := baseResiduals snapshot.capacity.resources
    obligation := zeroObligations snapshot.demands
    reservations := []
    policyExclusions := [] }

def derive (snapshot : FabricSnapshot) : Result Derivation := do
  let accounting ← accountReservations snapshot (startAccounting snapshot)
    snapshot.reservations.reservations
  let available ← availability (accounting.residuals.entries.map Prod.snd)
  let exclusions := accounting.policyExclusions ++
    snapshot.demands.flatMap (demandExclusions snapshot)
  .ok
    { demands := snapshot.demands.map
        (deriveDemand snapshot (planningPaths snapshot) accounting.obligation)
      residuals := available.1
      reservations := accounting.reservations
      constraints := stableSort BindingConstraint.key available.2
      policyExclusions := (stableSort id exclusions).destutter (· ≠ ·)
      anyDemandActive := snapshot.demands.any fun demand =>
        demand.effective.covers snapshot.evaluationTick }

end TrafficFabric
