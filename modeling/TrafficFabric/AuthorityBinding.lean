import TrafficFabric.AuthorityContent
import TrafficFabric.DerivedDemand
import TrafficFabric.Solve

set_option autoImplicit false

namespace TrafficFabric

/-! Accepted contents fit the encoding. -/

/-- The lists that validation leaves unbounded fit the counts of the writer. -/
structure FitsWriter (snapshot : FabricSnapshot) : Prop where
  domains : ∀ demand ∈ snapshot.demands, FitsCount demand.requiredFailureDomains.length
  demandLabels : ∀ demand ∈ snapshot.demands, FitsCount demand.labels.length
  policyLabels : ∀ path ∈ snapshot.paths, FitsCount path.policyLabels.length ∧
    ∀ label ∈ path.policyLabels, FitsCount label.length
  paths : ∀ reservation ∈ snapshot.reservations.reservations, FitsCount reservation.paths.length
  tenants : FitsCount snapshot.policy.allowedTenants.length
  serviceClasses : FitsCount snapshot.policy.allowedServiceClasses.length

theorem fitsCount_of_le {length bound : Nat} (le : length ≤ bound) (small : bound < 2 ^ 32) :
    FitsCount length := lt_of_le_of_lt le small

theorem inInt64_of_inRange {value bound : Int} (checked : inRange value bound = true)
    (small : bound ≤ int64Max) : InInt64 value := by
  rw [inRange_iff] at checked
  have low : int64Min ≤ 0 := by decide
  unfold InInt64
  omega

theorem inInt64_of_optionalInRange {value : Option Int} {bound : Int}
    (checked : optionalInRange value bound = true) (small : bound ≤ int64Max) :
    ∀ inside ∈ value, InInt64 inside := by
  intro inside present
  rw [Option.mem_def.mp present] at checked
  exact inInt64_of_inRange checked small

/-- A strictly sorted list of known names is no longer than the list that knows them. -/
theorem length_le_of_strict {K : Type} [LinearOrder K] (items known : List K)
    (strict : items.Pairwise (· < ·)) (inside : ∀ item ∈ items, item ∈ known) :
    items.length ≤ known.length := by
  have distinct : items.Nodup := strict.imp ne_of_lt
  exact (distinct.subperm inside).length_le

/-! What passes its check is writable, up to the lists the check leaves unbounded. -/

section Checked

variable {snapshot : FabricSnapshot}

theorem Demand.writable_of_checked {demand : Demand} (passed : validateDemand snapshot demand = .ok ())
    (domains : FitsCount demand.requiredFailureDomains.length)
    (bindings : FitsCount demand.reservationBindings.length) (labels : FitsCount demand.labels.length) :
    demand.Writable := by
  simp only [validateDemand, check_bind_eq_ok, require_eq_ok, checkAll_eq_ok, Bool.and_eq_true,
    decide_eq_true_eq] at passed
  obtain ⟨-, -, -, -, minimum, desired, maximum, -, -, latency, cost, -,
    ⟨⟨⟨allowed, forbidden⟩, affinity⟩, antiAffinity⟩, -, -, -, texts⟩ := passed
  have word : Limits.maxBandwidth ≤ int64Max := by decide
  have small : Limits.maxConstraintRefs < 2 ^ 32 := by decide
  exact
    { minimum := inInt64_of_inRange minimum word
      desired := inInt64_of_inRange desired word
      maximum := inInt64_of_inRange maximum word
      latency := inInt64_of_optionalInRange latency (by decide)
      cost := inInt64_of_optionalInRange cost (by decide)
      allowed := fitsCount_of_le allowed small
      forbidden := fitsCount_of_le forbidden small
      affinity := fitsCount_of_le affinity small
      antiAffinity := fitsCount_of_le antiAffinity small
      domains := domains
      bindings := bindings
      labels := by
        refine ⟨labels, ?_⟩
        intro label listed
        obtain ⟨⟨-, key⟩, value⟩ := texts label listed
        exact ⟨fitsCount_of_le key (by decide), fitsCount_of_le value (by decide)⟩ }

theorem CandidatePath.writable_of_checked {path : CandidatePath}
    (passed : validatePath snapshot path = .ok ())
    (labels : FitsCount path.policyLabels.length ∧ ∀ label ∈ path.policyLabels, FitsCount label.length) :
    path.Writable := by
  simp only [validatePath, check_bind_eq_ok, require_eq_ok, checkAll_eq_ok, decide_eq_true_eq] at passed
  obtain ⟨-, -, -, -, -, -, -, resources, -, domains, cost, latency, -, -⟩ := passed
  exact
    { resources := fitsCount_of_le resources (by decide)
      domains := fitsCount_of_le domains (by decide)
      labels := labels
      cost := inInt64_of_inRange cost (by decide)
      latency := inInt64_of_optionalInRange latency (by decide) }

theorem FabricResource.writable_of_checked {resource : FabricResource}
    (passed : validateResource resource = .ok ()) : resource.Writable := by
  simp only [validateResource, check_bind_eq_ok, require_eq_ok, decide_eq_true_eq] at passed
  obtain ⟨-, -, -, usable, committed, domains⟩ := passed
  exact ⟨inInt64_of_inRange usable (by decide), inInt64_of_inRange committed (by decide),
    fitsCount_of_le domains (by decide)⟩

theorem Reservation.writable_of_checked {reservation : Reservation}
    (passed : validateReservation snapshot reservation = .ok ())
    (paths : FitsCount reservation.paths.length)
    (resources : FitsCount reservation.resources.length) : reservation.Writable := by
  simp only [validateReservation, check_bind_eq_ok, require_eq_ok] at passed
  exact ⟨paths, resources, inInt64_of_inRange passed.2.2.2.1 (by decide)⟩

theorem Policy.writable_of_checked {policy : Policy} (passed : validatePolicy policy = .ok ())
    (tenants : FitsCount policy.allowedTenants.length)
    (serviceClasses : FitsCount policy.allowedServiceClasses.length) : policy.Writable := by
  simp only [validatePolicy, check_bind_eq_ok, require_eq_ok, Bool.and_eq_true, decide_eq_true_eq] at passed
  obtain ⟨-, -, cap, improvement, moved, risk, -⟩ := passed
  have utilization : InInt64 policy.maxUtilizationPermille := by
    unfold InInt64 int64Min int64Max
    omega
  exact ⟨utilization, inInt64_of_inRange improvement (by decide), inInt64_of_inRange moved (by decide),
    inInt64_of_inRange risk (by decide), tenants, serviceClasses⟩

theorem fitsCount_terms {profile : ObjectiveProfile} (passed : validateObjective profile = .ok ()) :
    FitsCount profile.terms.length := by
  simp only [validateObjective, check_bind_eq_ok, require_eq_ok, decide_eq_true_eq] at passed
  exact fitsCount_of_le passed.2.2.2.1 (by decide)

end Checked

section Accepted

variable {snapshot : FabricSnapshot} (accepted : Accepted snapshot) (fits : FitsWriter snapshot)

include accepted fits

theorem writable_demand {demand : Demand} (member : demand ∈ snapshot.demands) :
    demand.Writable := by
  have passed := accepted.demand_checks.1 demand member
  have checked := passed
  simp only [validateDemand, check_bind_eq_ok, require_eq_ok, checkAll_eq_ok] at checked
  obtain ⟨-, -, -, -, -, -, -, -, -, -, -, -, -, -, -, known, -⟩ := checked
  have bound : demand.reservationBindings.length ≤ Limits.maxReservations := by
    obtain ⟨raw, rfl⟩ := accepted.demand_canonical member
    have few := length_le_of_strict _ (snapshot.reservations.reservations.map Reservation.id)
      (sortUnique_strict id raw.reservationBindings)
      (by intro binding listed; simpa using known binding listed)
    rw [List.length_map] at few
    exact few.trans accepted.reservation_checks.1
  exact Demand.writable_of_checked passed (fits.domains demand member)
    (fitsCount_of_le bound (by decide)) (fits.demandLabels demand member)

theorem writable_path {path : CandidatePath} (member : path ∈ snapshot.paths) : path.Writable :=
  CandidatePath.writable_of_checked (accepted.path_checks.1 path member) (fits.policyLabels path member)

omit fits in
theorem writable_resource {resource : FabricResource}
    (member : resource ∈ snapshot.capacity.resources) : resource.Writable :=
  FabricResource.writable_of_checked (accepted.capacity_checks.2.1 resource member)

theorem writable_reservation {reservation : Reservation}
    (member : reservation ∈ snapshot.reservations.reservations) : reservation.Writable := by
  have known := length_le_of_strict _ _ (accepted.reservation_resources_strict member)
    (accepted.reservation_resources_known member)
  rw [List.length_map] at known
  exact Reservation.writable_of_checked (accepted.reservation_checks.2.1 reservation member)
    (fits.paths reservation member) (fitsCount_of_le (known.trans accepted.capacity_checks.1) (by decide))

theorem writable_policy : snapshot.policy.Writable :=
  Policy.writable_of_checked ((validateStructure_eq_ok snapshot).mp accepted.valid).2.2.2.1 fits.tenants
    fits.serviceClasses

omit fits in
theorem terms_fit : FitsCount snapshot.objective.terms.length :=
  fitsCount_terms ((validateStructure_eq_ok snapshot).mp accepted.valid).2.2.2.2.1

omit fits in
theorem authorityOf_valid : (authorityOf snapshot).valid = true := by
  obtain ⟨header, capacity, reservations, policy, objective, -⟩ :=
    (validateStructure_eq_ok snapshot).mp accepted.valid
  simp only [validateHeader, check_bind_eq_ok, require_eq_ok] at header
  simp only [validateCapacity, check_bind_eq_ok, require_eq_ok, Bool.and_eq_true] at capacity
  simp only [validateReservations, check_bind_eq_ok, require_eq_ok, Bool.and_eq_true] at reservations
  simp only [validatePolicy, check_bind_eq_ok, require_eq_ok, Bool.and_eq_true] at policy
  simp only [validateObjective, check_bind_eq_ok, require_eq_ok, Bool.and_eq_true] at objective
  obtain ⟨epoch, topology, linkState, pathAuthority, failureDomain, -, candidateSet, -⟩ := header
  simp only [AuthorityVector.valid, authorityOf, Ref.valid, Bool.and_eq_true]
  rw [Ref.valid, Bool.and_eq_true] at candidateSet
  exact ⟨⟨⟨⟨⟨⟨⟨⟨⟨epoch, topology⟩, linkState⟩, pathAuthority⟩, failureDomain⟩, capacity.1⟩,
    reservations.1⟩, policy.1⟩, objective.1⟩, candidateSet⟩

end Accepted

/-! Equal authority is equal content. -/

/-- The hash tells the two payloads apart. -/
def Separates (domain : Text) (left right : List UInt8) : Prop :=
  digestWithDomain domain left = digestWithDomain domain right → left = right

/-- None of the digests the two authority vectors compare is a collision. -/
structure CollisionFree (first second : FabricSnapshot) : Prop where
  demands : Separates (text "tef.demands.v1") (Writer.sequence Writer.demand first.demands)
    (Writer.sequence Writer.demand second.demands)
  paths : Separates (text "tef.candidate-set.v1") (Writer.sequence Writer.path first.paths)
    (Writer.sequence Writer.path second.paths)
  resources : Separates (text "tef.resources.v1")
    (Writer.sequence Writer.resource first.capacity.resources)
    (Writer.sequence Writer.resource second.capacity.resources)
  reservations : Separates (text "tef.reservations.v1")
    (Writer.sequence Writer.reservation first.reservations.reservations)
    (Writer.sequence Writer.reservation second.reservations.reservations)
  policy : Separates (text "tef.policy.v1") (Writer.policy first.policy)
    (Writer.policy second.policy)
  objective : Separates (text "tef.objective.v1") (Writer.objectiveProfile first.objective)
    (Writer.objectiveProfile second.objective)

/-- Everything planning reads but the evaluation tick. -/
structure SameContent (first second : FabricSnapshot) : Prop where
  pathAuthority : first.pathAuthorityGeneration = second.pathAuthorityGeneration
  demands : first.demands.map Demand.written = second.demands.map Demand.written
  paths : first.paths.map CandidatePath.written = second.paths.map CandidatePath.written
  resources : first.capacity.resources.map FabricResource.written =
    second.capacity.resources.map FabricResource.written
  reservations : first.reservations.reservations.map Reservation.written =
    second.reservations.reservations.map Reservation.written
  policy : first.policy.written = second.policy.written
  objective : first.objective.written = second.objective.written

theorem sameContent_of_identical {first second : FabricSnapshot} (firstAccepted : Accepted first)
    (secondAccepted : Accepted second) (firstFits : FitsWriter first)
    (secondFits : FitsWriter second) (collisionFree : CollisionFree first second)
    (identical : (compareAuthority (authorityOf first) (authorityOf second)).identical = true) :
    SameContent first second := by
  have equal := ((compareAuthority_identical (authorityOf_valid firstAccepted)
    (authorityOf_valid secondAccepted)).mp identical).symm
  simp only [authorityOf, AuthorityVector.mk.injEq] at equal
  obtain ⟨-, -, -, pathAuthority, -, -, -, -, -, -, demands, paths, resources, reservations, policy,
    objective⟩ := equal
  have maxDemands : Limits.maxDemands < 2 ^ 32 := by decide
  have maxPaths : Limits.maxTotalCandidatePaths < 2 ^ 32 := by decide
  have maxResources : Limits.maxResources < 2 ^ 32 := by decide
  have maxReservations : Limits.maxReservations < 2 ^ 32 := by decide
  refine ⟨pathAuthority, ?_, ?_, ?_, ?_, ?_, ?_⟩
  · exact Writer.sequence_fact Writer.demand_delimits
      (fun _ => writable_demand firstAccepted firstFits)
      (fun _ => writable_demand secondAccepted secondFits)
      (fitsCount_of_le firstAccepted.demands_length maxDemands)
      (fitsCount_of_le secondAccepted.demands_length maxDemands) (collisionFree.demands demands)
  · exact Writer.sequence_fact Writer.path_delimits
      (fun _ => writable_path firstAccepted firstFits)
      (fun _ => writable_path secondAccepted secondFits)
      (fitsCount_of_le firstAccepted.paths_length maxPaths)
      (fitsCount_of_le secondAccepted.paths_length maxPaths) (collisionFree.paths paths)
  · exact Writer.sequence_fact Writer.resource_delimits
      (fun _ => writable_resource firstAccepted) (fun _ => writable_resource secondAccepted)
      (fitsCount_of_le firstAccepted.capacity_checks.1 maxResources)
      (fitsCount_of_le secondAccepted.capacity_checks.1 maxResources)
      (collisionFree.resources resources)
  · exact Writer.sequence_fact Writer.reservation_delimits
      (fun _ => writable_reservation firstAccepted firstFits)
      (fun _ => writable_reservation secondAccepted secondFits)
      (fitsCount_of_le firstAccepted.reservation_checks.1 maxReservations)
      (fitsCount_of_le secondAccepted.reservation_checks.1 maxReservations)
      (collisionFree.reservations reservations)
  · exact Writer.policy_delimits.fact_eq (writable_policy firstAccepted firstFits)
      (writable_policy secondAccepted secondFits) (collisionFree.policy policy)
  · exact Writer.objectiveProfile_delimits.fact_eq (terms_fit firstAccepted)
      (terms_fit secondAccepted) (collisionFree.objective objective)

/-! What planning reads. -/

/-- Two functions that agree on a list also agree across an erasure the second does not see. -/
theorem map_eq_of_erased {α β : Type} {erase : α → α} {left right : List α}
    (same : left.map erase = right.map erase) {read other : α → β}
    (blind : ∀ item, other (erase item) = other item)
    (agree : ∀ item ∈ left, read item = other item) : left.map read = right.map other := by
  have mapped := congrArg (List.map other) same
  simp only [List.map_map, Function.comp_def, blind] at mapped
  rw [List.map_congr_left agree, mapped]

/-- Every demand and every reservation is active in both snapshots or in neither. -/
structure SameActivity (first second : FabricSnapshot) : Prop where
  demands : ∀ demand ∈ first.demands, demand.effective.covers first.evaluationTick =
    demand.effective.covers second.evaluationTick
  reservations : ∀ reservation ∈ first.reservations.reservations,
    reservation.effective.covers first.evaluationTick =
      reservation.effective.covers second.evaluationTick

/-- The part of a demand that planning reads. -/
def Demand.facts (demand : Demand) : Demand := { demand.written with labels := [] }

/-- Planning does not read the labels of a demand. -/
structure SameFacts (first second : FabricSnapshot) : Prop where
  pathAuthority : first.pathAuthorityGeneration = second.pathAuthorityGeneration
  demands : first.demands.map Demand.facts = second.demands.map Demand.facts
  paths : first.paths.map CandidatePath.written = second.paths.map CandidatePath.written
  resources : first.capacity.resources.map FabricResource.written =
    second.capacity.resources.map FabricResource.written
  reservations : first.reservations.reservations.map Reservation.written =
    second.reservations.reservations.map Reservation.written
  policy : first.policy.written = second.policy.written
  objective : first.objective.written = second.objective.written

theorem SameContent.facts {first second : FabricSnapshot} (same : SameContent first second) :
    SameFacts first second where
  pathAuthority := same.pathAuthority
  demands := map_eq_of_erased same.demands (fun _ => rfl) (fun _ _ => rfl)
  paths := same.paths
  resources := same.resources
  reservations := same.reservations
  policy := same.policy
  objective := same.objective

namespace SameFacts

variable {first second : FabricSnapshot} (same : SameFacts first second)

include same

theorem planningPaths_eq : planningPaths first = planningPaths second :=
  map_eq_of_erased same.paths (fun _ => rfl) (fun _ _ => rfl)

theorem terms_eq : first.objective.terms = second.objective.terms := by
  have terms := congrArg ObjectiveProfile.terms same.objective
  exact terms

theorem policy_eq {β : Type} (read : Policy → β) (blind : ∀ policy, read policy.written = read policy) :
    read first.policy = read second.policy := by
  rw [← blind first.policy, same.policy, blind]

theorem owned_eq (reservation : Reservation) : owned first reservation = owned second reservation := by
  have ids : first.demands.map Demand.id = second.demands.map Demand.id :=
    map_eq_of_erased same.demands (fun _ => rfl) (fun _ _ => rfl)
  unfold owned
  rw [ids]

theorem bindingOwner_eq : bindingOwner first.demands = bindingOwner second.demands := by
  have erased : ∀ demands : List Demand,
      bindingOwner (demands.map Demand.facts) = bindingOwner demands := by
    intro demands
    unfold bindingOwner
    rw [List.foldl_map]
    rfl
  rw [← erased first.demands, same.demands, erased]

theorem chargedTo_eq (reservation : Reservation) :
    chargedTo first reservation = chargedTo second reservation := by
  unfold chargedTo
  rw [same.owned_eq, same.bindingOwner_eq]

theorem displaceable_eq (reservation : Reservation) :
    displaceable first reservation = displaceable second reservation := by
  unfold displaceable
  rw [same.owned_eq, same.bindingOwner_eq, same.policy_eq Policy.allowPreemption (fun _ => rfl),
    same.policy_eq policyPermitsPreemption (fun _ => rfl)]

section Active

variable (active : SameActivity first second)

include active

theorem reservedTotal_eq (resource : ResourceId) :
    reservedTotal first resource = reservedTotal second resource := by
  unfold reservedTotal
  congr 1
  apply map_eq_of_erased same.reservations (fun _ => rfl)
  intro reservation member
  unfold resourceCharge
  rw [active.reservations reservation member, same.displaceable_eq, same.chargedTo_eq]

theorem obligationTotal_eq (demand : DemandId) :
    obligationTotal first demand = obligationTotal second demand := by
  unfold obligationTotal
  congr 1
  apply map_eq_of_erased same.reservations (fun _ => rfl)
  intro reservation member
  unfold demandCharge
  rw [active.reservations reservation member, same.displaceable_eq, same.chargedTo_eq]

theorem chargedResiduals_eq : first.capacity.resources.map (chargedResidual first) =
    second.capacity.resources.map (chargedResidual second) := by
  apply map_eq_of_erased same.resources (fun _ => rfl)
  intro resource _
  unfold chargedResidual
  rw [same.reservedTotal_eq active]

theorem derivedDemand_eq {demand : Demand} (member : demand ∈ first.demands) :
    derivedDemand first demand = derivedDemand second demand := by
  have basics : ∀ obligation, demandBasics first obligation demand =
      demandBasics second obligation demand := by
    intro obligation
    unfold demandBasics
    rw [active.demands demand member]
  unfold derivedDemand deriveDemand
  rw [same.obligationTotal_eq active, same.planningPaths_eq, basics,
    same.policy_eq pathLimit (fun _ => rfl), same.policy_eq demandNotes (fun _ => rfl)]

theorem derivation_eq : derivation first = derivation second := by
  have demands : first.demands.map (derivedDemand first) =
      second.demands.map (derivedDemand second) := by
    apply map_eq_of_erased same.demands (fun _ => rfl)
    intro demand member
    exact same.derivedDemand_eq active member
  have residuals : first.capacity.resources.map (publishedResidual first) =
      second.capacity.resources.map (publishedResidual second) := by
    have mapped := congrArg (List.map withAvailable) (same.chargedResiduals_eq active)
    rw [List.map_map, List.map_map] at mapped
    exact mapped
  have reservations : first.reservations.reservations.map (accountingOf first) =
      second.reservations.reservations.map (accountingOf second) := by
    apply map_eq_of_erased same.reservations (fun _ => rfl)
    intro reservation member
    unfold accountingOf
    rw [active.reservations reservation member, same.displaceable_eq, same.chargedTo_eq]
  have reservationNotes : first.reservations.reservations.flatMap (reservationExclusions first) =
      second.reservations.reservations.flatMap (reservationExclusions second) := by
    rw [List.flatMap_def, List.flatMap_def]
    congr 1
    apply map_eq_of_erased same.reservations (fun _ => rfl)
    intro reservation member
    unfold reservationExclusions
    rw [active.reservations reservation member, same.displaceable_eq]
  have demandTexts : first.demands.flatMap (demandExclusions first) =
      second.demands.flatMap (demandExclusions second) := by
    rw [List.flatMap_def, List.flatMap_def]
    congr 1
    apply map_eq_of_erased same.demands (fun _ => rfl)
    intro demand member
    unfold demandExclusions
    rw [active.demands demand member, same.policy_eq tenantExcluded (fun _ => rfl),
      same.policy_eq serviceClassExcluded (fun _ => rfl)]
  have anyActive : (first.demands.any fun demand => demand.effective.covers first.evaluationTick) =
      second.demands.any fun demand => demand.effective.covers second.evaluationTick := by
    have flags : (first.demands.map fun demand => demand.effective.covers first.evaluationTick) =
        second.demands.map fun demand => demand.effective.covers second.evaluationTick := by
      apply map_eq_of_erased same.demands (fun _ => rfl)
      intro demand member
      exact active.demands demand member
    have anyFlag := congrArg (fun flags => flags.any id) flags
    simpa only [List.any_map, Function.comp_def, id_eq] using anyFlag
  unfold derivation
  rw [demands, residuals, reservations, same.chargedResiduals_eq active, reservationNotes,
    demandTexts, anyActive]

theorem derive_congr (firstAccepted : Accepted first) (secondAccepted : Accepted second) :
    derive first = derive second := by
  have overflow : overflowingResource first = overflowingResource second := by
    unfold overflowingResource
    rw [same.chargedResiduals_eq active]
  rw [derive_eq firstAccepted, derive_eq secondAccepted, overflow, same.derivation_eq active]

end Active

/-! The verifier and the solver read nothing else. -/

theorem findPath_eq (id : PathId) : findPath first id = findPath second id := by
  unfold findPath
  rw [same.planningPaths_eq]

theorem scanShare_eq : scanShare first = scanShare second := by
  funext demand entry scan share
  unfold scanShare
  rw [same.findPath_eq, same.pathAuthority]

theorem verifyEntry_eq : verifyEntry first = verifyEntry second := by
  funext expected degraded state entry
  unfold verifyEntry
  rw [same.scanShare_eq]

theorem verifyAllocation_eq (derived : derive first = derive second) (allocation : Allocation) :
    verifyAllocation first allocation = verifyAllocation second allocation := by
  unfold verifyAllocation
  rw [derived, same.verifyEntry_eq]

theorem computeMetrics_eq (derived : Derivation) (allocation : Allocation) (options : SolveOptions) :
    computeMetrics first derived allocation options =
      computeMetrics second derived allocation options := by
  unfold computeMetrics pathCost domainLoad
  simp only [same.findPath_eq]

theorem makeProblem_eq (derived : Derivation) :
    makeProblem first derived = makeProblem second derived := by
  unfold makeProblem
  rw [same.terms_eq, same.planningPaths_eq]

theorem widenCeiling_eq (derived : Derivation) (options : SolveOptions) (order : List DemandId)
    (probes : Nat) (low high best : Int) (iterations : Nat) (notes : List Text) :
    widenCeiling first derived options order probes low high best iterations notes =
      widenCeiling second derived options order probes low high best iterations notes := by
  induction probes generalizing low high best iterations notes with
  | zero => rfl
  | succ probes ih => simp only [widenCeiling, same.makeProblem_eq, ih]

theorem constructMinimums_eq (derived : Derivation) (options : SolveOptions) (ceiling : Int) :
    constructMinimums first derived options ceiling =
      constructMinimums second derived options ceiling := by
  unfold constructMinimums
  simp only [same.makeProblem_eq, same.widenCeiling_eq, same.terms_eq,
    same.policy_eq Policy.maxUtilizationPermille (fun _ => rfl)]

theorem plan_eq (derives : derive first = derive second) (derived : Derivation)
    (options : SolveOptions) (ceiling : Int) (conflict : Bool) :
    plan first derived options ceiling conflict = plan second derived options ceiling conflict := by
  unfold plan constructed conclude
  simp only [same.constructMinimums_eq, same.computeMetrics_eq, same.verifyAllocation_eq derives,
    same.terms_eq, same.policy_eq Policy.maxUtilizationPermille (fun _ => rfl),
    same.policy_eq verdictOf (fun _ => rfl)]

theorem searchRefusal_eq (derived : Derivation) (problem : Problem) :
    searchRefusal first derived problem = searchRefusal second derived problem := by
  unfold searchRefusal
  rw [same.policy_eq Policy.maxUtilizationPermille (fun _ => rfl),
    same.policy_eq capSummary (fun _ => rfl), same.policy_eq capConstraint (fun _ => rfl)]

theorem solve_eq (derives : derive first = derive second) (options : SolveOptions) :
    solve first options = solve second options := by
  have planned : ∀ derived, solveDerived first derived options = solveDerived second derived options := by
    intro derived
    unfold solveDerived
    rw [same.terms_eq, same.makeProblem_eq, same.policy_eq Policy.maxUtilizationPermille (fun _ => rfl)]
    simp only [same.plan_eq derives, same.searchRefusal_eq]
  unfold solve
  rw [derives]
  simp only [planned]

end SameFacts

/-! The authority vector and the plan. -/

/-- The two snapshots derive, plan and verify alike. -/
structure SamePlan (first second : FabricSnapshot) : Prop where
  derived : derive first = derive second
  solved : ∀ options,
    (solve first options).map (fun outcome => (outcome.status, outcome.allocation)) =
      (solve second options).map fun outcome => (outcome.status, outcome.allocation)
  verified : ∀ allocation, verifyAllocation first allocation = verifyAllocation second allocation

/-- In both snapshots the accounting overflows, and on the same resource first. -/
def SameOverflow (first second : FabricSnapshot) : Prop :=
  ∃ left right, overflowingResource first = some left ∧ overflowingResource second = some right ∧
    left.resource = right.resource

theorem overflowError_inj {first second : ResourceId}
    (same : overflowError first = overflowError second) : first = second := by
  simp only [overflowError, Error.mk.injEq, true_and] at same
  exact Id.ext (List.append_cancel_left (List.append_cancel_right same))

theorem sameActivity_of_derivation {first second : FabricSnapshot} (same : SameContent first second)
    (equal : derivation first = derivation second) : SameActivity first second := by
  refine ⟨?_, ?_⟩
  · have flags := congrArg (fun derived => derived.demands.map DemandDerivation.active) equal
    simp only [derivation, List.map_map, Function.comp_def, derivedDemand_active] at flags
    have shifted : (first.demands.map fun demand => demand.effective.covers second.evaluationTick) =
        second.demands.map fun demand => demand.effective.covers second.evaluationTick :=
      map_eq_of_erased same.demands (fun _ => rfl) (fun _ _ => rfl)
    rw [← shifted] at flags
    exact List.map_inj_left.mp flags
  · have active : ∀ (snapshot : FabricSnapshot) (reservation : Reservation),
        (accountingOf snapshot reservation).active =
          reservation.effective.covers snapshot.evaluationTick := by
      intro snapshot reservation
      unfold accountingOf
      dsimp only
      split
      · rfl
      · split
        · rfl
        · split <;> rfl
    have flags := congrArg (fun derived => derived.reservations.map ReservationAccounting.active) equal
    simp only [derivation, List.map_map, Function.comp_def, active] at flags
    have shifted : (first.reservations.reservations.map fun reservation =>
          reservation.effective.covers second.evaluationTick) =
        second.reservations.reservations.map fun reservation =>
          reservation.effective.covers second.evaluationTick :=
      map_eq_of_erased same.reservations (fun _ => rfl) (fun _ _ => rfl)
    rw [← shifted] at flags
    exact List.map_inj_left.mp flags

/-- Snapshots with identical authority plan alike exactly when the tick, which the vector
does not bind, makes the same demands and reservations active. -/
theorem samePlan_iff {first second : FabricSnapshot} (firstAccepted : Accepted first)
    (secondAccepted : Accepted second) (firstFits : FitsWriter first)
    (secondFits : FitsWriter second) (collisionFree : CollisionFree first second)
    (identical : (compareAuthority (authorityOf first) (authorityOf second)).identical = true) :
    SamePlan first second ↔ SameActivity first second ∨ SameOverflow first second := by
  have same := sameContent_of_identical firstAccepted secondAccepted firstFits secondFits
    collisionFree identical
  have planned : derive first = derive second → SamePlan first second := by
    intro derives
    refine ⟨derives, ?_, same.facts.verifyAllocation_eq derives⟩
    intro options
    rw [same.facts.solve_eq derives]
  constructor
  · intro plans
    have derives := plans.derived
    rw [derive_eq firstAccepted, derive_eq secondAccepted] at derives
    cases left : overflowingResource first with
    | none =>
        cases right : overflowingResource second with
        | none =>
            rw [left, right] at derives
            exact .inl (sameActivity_of_derivation same (Except.ok.inj derives))
        | some entry =>
            rw [left, right] at derives
            cases derives
    | some entry =>
        cases right : overflowingResource second with
        | none =>
            rw [left, right] at derives
            cases derives
        | some other =>
            rw [left, right] at derives
            exact .inr ⟨entry, other, left, right, overflowError_inj (Except.error.inj derives)⟩
  · rintro (active | ⟨left, right, leftFound, rightFound, resource⟩)
    · exact planned (same.facts.derive_congr active firstAccepted secondAccepted)
    · apply planned
      rw [derive_eq firstAccepted, derive_eq secondAccepted, leftFound, rightFound]
      dsimp only
      rw [resource]

theorem FitsWriter.at_tick {snapshot : FabricSnapshot} (fits : FitsWriter snapshot) (tick : UInt64) :
    FitsWriter { snapshot with evaluationTick := tick } :=
  ⟨fits.domains, fits.demandLabels, fits.policyLabels, fits.paths, fits.tenants, fits.serviceClasses⟩

/-- Snapshots that hash the same bytes cannot collide. -/
theorem collisionFree_of_same_fields {first second : FabricSnapshot}
    (demands : first.demands = second.demands) (paths : first.paths = second.paths)
    (capacity : first.capacity = second.capacity)
    (reservations : first.reservations = second.reservations)
    (policy : first.policy = second.policy) (objective : first.objective = second.objective) :
    CollisionFree first second := by
  refine ⟨?_, ?_, ?_, ?_, ?_, ?_⟩ <;> intro _
  · rw [demands]
  · rw [paths]
  · rw [capacity]
  · rw [reservations]
  · rw [policy]
  · rw [objective]

/-- The open-ended demand of the link is active at every tick. -/
theorem samePlan_iff_linkFabric :
    (compareAuthority (authorityOf linkFabric)
      (authorityOf { linkFabric with evaluationTick := 7 })).identical = true ∧
    (SamePlan linkFabric { linkFabric with evaluationTick := 7 } ↔
      SameActivity linkFabric { linkFabric with evaluationTick := 7 } ∨
        SameOverflow linkFabric { linkFabric with evaluationTick := 7 }) ∧
    SameActivity linkFabric { linkFabric with evaluationTick := 7 } := by
  have later : Accepted { linkFabric with evaluationTick := 7 } :=
    accepted_of_checks _ (by decide +kernel) (by decide +kernel)
  have identical : (compareAuthority (authorityOf linkFabric)
      (authorityOf { linkFabric with evaluationTick := 7 })).identical = true := by
    rw [compareAuthority_identical (authorityOf_valid linkFabric_accepted) (authorityOf_valid later)]
    rfl
  have fits : FitsWriter linkFabric := by
    refine ⟨?_, ?_, ?_, ?_, ?_, ?_⟩ <;> decide +kernel
  refine ⟨identical, ?_, by decide +kernel, by decide +kernel⟩
  exact samePlan_iff linkFabric_accepted later fits (fits.at_tick 7)
    (collisionFree_of_same_fields rfl rfl rfl rfl rfl rfl) identical

/-- The link with a demand whose interval ends before tick one. -/
def expiringFabric (tick : UInt64) : FabricSnapshot :=
  { linkFabric with
    demands := [{ linkDemand with
      effective := { startTick := 0, endTick := 1, openEnded := false } }]
    evaluationTick := tick }

/-- Nothing in the authority vector tells the ticks apart, yet the demand is served at the
first and dropped at the second. -/
theorem expiringFabric_plans_differ :
    Accepted (expiringFabric 0) ∧ Accepted (expiringFabric 1) ∧
    FitsWriter (expiringFabric 0) ∧ FitsWriter (expiringFabric 1) ∧
    CollisionFree (expiringFabric 0) (expiringFabric 1) ∧
    (compareAuthority (authorityOf (expiringFabric 0))
      (authorityOf (expiringFabric 1))).identical = true ∧
    ((solve (expiringFabric 0) {}).toOption.map fun outcome => outcome.allocation.totalGranted) =
      some 10 ∧
    ((solve (expiringFabric 1) {}).toOption.map fun outcome => outcome.allocation.totalGranted) =
      some 0 ∧
    ¬ SamePlan (expiringFabric 0) (expiringFabric 1) := by
  have before : Accepted (expiringFabric 0) :=
    accepted_of_checks _ (by decide +kernel) (by decide +kernel)
  have after : Accepted (expiringFabric 1) :=
    accepted_of_checks _ (by decide +kernel) (by decide +kernel)
  have fits : FitsWriter (expiringFabric 0) := by
    refine ⟨?_, ?_, ?_, ?_, ?_, ?_⟩ <;> decide +kernel
  have granted : ((solve (expiringFabric 0) {}).toOption.map fun outcome =>
      outcome.allocation.totalGranted) = some 10 := by
    decide +kernel
  have dropped : ((solve (expiringFabric 1) {}).toOption.map fun outcome =>
      outcome.allocation.totalGranted) = some 0 := by
    decide +kernel
  refine ⟨before, after, fits, fits.at_tick 1, collisionFree_of_same_fields rfl rfl rfl rfl rfl rfl, ?_,
    granted, dropped, ?_⟩
  · rw [compareAuthority_identical (authorityOf_valid before) (authorityOf_valid after)]
    rfl
  · intro plans
    have solved := congrArg (fun result => result.toOption.map fun pair => pair.2.totalGranted)
      (plans.solved {})
    have reads : ∀ result : Result SolveOutcome,
        ((result.map fun outcome => (outcome.status, outcome.allocation)).toOption.map fun pair =>
          pair.2.totalGranted) = result.toOption.map fun outcome => outcome.allocation.totalGranted := by
      intro result
      cases result <;> rfl
    simp only [reads, granted, dropped] at solved
    cases solved

end TrafficFabric
