import TrafficFabric.Canonical

set_option autoImplicit false

/- What every later argument may rely on: the order canonicalization establishes and
the ranges and references structural validation checks. -/
namespace TrafficFabric

/-- A snapshot the planner is given: canonicalized and structurally valid. -/
structure Accepted (snapshot : FabricSnapshot) : Prop where
  canonical : Canonical snapshot
  valid : validateStructure snapshot = .ok ()

theorem requireDistinct_nodup {kind : IdKind} {ids : List (Id kind)} {detail : Text}
    (accepted : requireDistinct ids detail = .ok ()) : ids.Nodup := by
  unfold requireDistinct at accepted
  rw [require_eq_ok, Bool.not_eq_true'] at accepted
  exact nodup_of_adjacentFind ids accepted

theorem inRange_iff (value bound : Int) :
    inRange value bound = true ↔ 0 ≤ value ∧ value ≤ bound := by
  simp [inRange]

theorem knownResource_iff (snapshot : FabricSnapshot) (resource : ResourceId) :
    knownResource snapshot resource = true ↔
      resource ∈ snapshot.capacity.resources.map FabricResource.id := by
  simp [knownResource]

/-- No candidate set is counted more often than there are paths. -/
theorem pathsPerSet_le (paths : List CandidatePath) :
    ∀ entry ∈ (pathsPerSet paths).entries, entry.2 ≤ paths.length := by
  have counted : ∀ (paths : List CandidatePath) (counts : OrdMap Text Nat) (limit : Nat),
      (∀ key count, counts.find? key = some count → count ≤ limit) → ∀ key count,
      (paths.foldl (fun counts path => counts.insert path.candidateSet.id.str
        ((counts.find? path.candidateSet.id.str).getD 0 + 1)) counts).find? key = some count →
      count ≤ limit + paths.length := by
    intro paths
    induction paths with
    | nil =>
        intro counts limit below key count found
        exact below key count found
    | cons path rest ih =>
        intro counts limit below key count found
        rw [List.foldl_cons] at found
        have later := ih _ (limit + 1) (by
          intro other value present
          rw [OrdMap.find?_insert] at present
          split at present
          · cases existing : counts.find? path.candidateSet.id.str with
            | none =>
                rw [existing] at present
                cases present
                simp
            | some old =>
                rw [existing] at present
                cases present
                have bound := below _ old existing
                simp only [Option.getD_some]
                omega
          · have bound := below other value present
            omega) key count found
        rw [List.length_cons]
        omega
  intro entry member
  have found := (OrdMap.mem_entries_iff _ entry.1 entry.2).mp member
  have bound := counted paths OrdMap.empty 0 (by intro key count absent; cases absent) entry.1 entry.2
    found
  omega

theorem validateStructure_eq_ok (snapshot : FabricSnapshot) :
    validateStructure snapshot = .ok () ↔
      validateHeader snapshot = .ok () ∧ validateCapacity snapshot = .ok () ∧
      validateReservations snapshot = .ok () ∧ validatePolicy snapshot.policy = .ok () ∧
      validateObjective snapshot.objective = .ok () ∧ validatePaths snapshot = .ok () ∧
      validateDemands snapshot = .ok () := by
  simp only [validateStructure, check_bind_eq_ok]

section Checked

variable {snapshot : FabricSnapshot} (valid : validateStructure snapshot = .ok ())

include valid

theorem checked_resource {resource : FabricResource} (member : resource ∈ snapshot.capacity.resources) :
    validateResource resource = .ok () := by
  have checked := ((validateStructure_eq_ok snapshot).1 valid).2.1
  simp only [validateCapacity, check_bind_eq_ok, checkAll_eq_ok] at checked
  exact checked.2.2.2.2.1 resource member

theorem checked_reservation {reservation : Reservation}
    (member : reservation ∈ snapshot.reservations.reservations) :
    validateReservation snapshot reservation = .ok () := by
  have checked := ((validateStructure_eq_ok snapshot).1 valid).2.2.1
  simp only [validateReservations, check_bind_eq_ok, checkAll_eq_ok] at checked
  exact checked.2.2.2.2.1 reservation member

theorem checked_path {path : CandidatePath} (member : path ∈ snapshot.paths) :
    validatePath snapshot path = .ok () := by
  have checked := ((validateStructure_eq_ok snapshot).1 valid).2.2.2.2.2.1
  simp only [validatePaths, check_bind_eq_ok, checkAll_eq_ok] at checked
  exact checked.1 path member

theorem checked_demand {demand : Demand} (member : demand ∈ snapshot.demands) :
    validateDemand snapshot demand = .ok () := by
  have checked := ((validateStructure_eq_ok snapshot).1 valid).2.2.2.2.2.2
  simp only [validateDemands, check_bind_eq_ok, checkAll_eq_ok] at checked
  exact checked.1 demand member

end Checked

namespace Accepted

variable {snapshot : FabricSnapshot}

/-! Canonical order. -/

theorem resources_sorted (accepted : Accepted snapshot) :
    snapshot.capacity.resources.Pairwise (fun first second => first.id ≤ second.id) := by
  obtain ⟨raw, rfl⟩ := accepted.canonical
  exact stableSort_sorted _ _

theorem demands_sorted (accepted : Accepted snapshot) :
    snapshot.demands.Pairwise (fun first second => first.id ≤ second.id) := by
  obtain ⟨raw, rfl⟩ := accepted.canonical
  exact stableSort_sorted _ _

theorem paths_sorted (accepted : Accepted snapshot) :
    snapshot.paths.Pairwise (fun first second => first.id ≤ second.id) := by
  obtain ⟨raw, rfl⟩ := accepted.canonical
  exact stableSort_sorted (fun path : CandidatePath => path.id) _

theorem demand_canonical (accepted : Accepted snapshot) {demand : Demand}
    (member : demand ∈ snapshot.demands) : ∃ raw, canonicalizeDemand raw = demand := by
  obtain ⟨raw, rfl⟩ := accepted.canonical
  obtain ⟨source, -, image⟩ := List.mem_map.mp ((mem_stableSort _ _ _).mp member)
  exact ⟨source, image⟩

theorem path_canonical (accepted : Accepted snapshot) {path : CandidatePath}
    (member : path ∈ snapshot.paths) : ∃ raw, canonicalizePath raw = path := by
  obtain ⟨raw, rfl⟩ := accepted.canonical
  obtain ⟨source, -, image⟩ := List.mem_map.mp ((mem_stableSort _ _ _).mp member)
  exact ⟨source, image⟩

theorem reservation_canonical (accepted : Accepted snapshot) {reservation : Reservation}
    (member : reservation ∈ snapshot.reservations.reservations) :
    ∃ raw, canonicalizeReservation raw = reservation := by
  obtain ⟨raw, rfl⟩ := accepted.canonical
  obtain ⟨source, -, image⟩ := List.mem_map.mp ((mem_stableSort _ _ _).mp member)
  exact ⟨source, image⟩

theorem path_resources_strict (accepted : Accepted snapshot) {path : CandidatePath}
    (member : path ∈ snapshot.paths) : path.resources.Pairwise (· < ·) := by
  obtain ⟨raw, rfl⟩ := accepted.path_canonical member
  exact sortUnique_strict id _

theorem reservation_resources_strict (accepted : Accepted snapshot) {reservation : Reservation}
    (member : reservation ∈ snapshot.reservations.reservations) :
    reservation.resources.Pairwise (· < ·) := by
  obtain ⟨raw, rfl⟩ := accepted.reservation_canonical member
  exact sortUnique_strict id _

theorem allowedTenants_strict (accepted : Accepted snapshot) :
    snapshot.policy.allowedTenants.Pairwise (· < ·) := by
  obtain ⟨raw, rfl⟩ := accepted.canonical
  exact sortUnique_strict id _

theorem allowedServiceClasses_strict (accepted : Accepted snapshot) :
    snapshot.policy.allowedServiceClasses.Pairwise (· < ·) := by
  obtain ⟨raw, rfl⟩ := accepted.canonical
  exact sortUnique_strict id _

/-! Distinct identities. -/

theorem capacity_checks (accepted : Accepted snapshot) :
    snapshot.capacity.resources.length ≤ Limits.maxResources ∧
    (∀ resource ∈ snapshot.capacity.resources, validateResource resource = .ok ()) ∧
    (snapshot.capacity.resources.map FabricResource.id).Nodup := by
  have checked := ((validateStructure_eq_ok snapshot).mp accepted.valid).2.1
  simp only [validateCapacity, check_bind_eq_ok, require_eq_ok, checkAll_eq_ok,
    decide_eq_true_eq] at checked
  obtain ⟨-, -, -, bounded, each, distinct⟩ := checked
  exact ⟨bounded, each, requireDistinct_nodup distinct⟩

theorem reservation_checks (accepted : Accepted snapshot) :
    snapshot.reservations.reservations.length ≤ Limits.maxReservations ∧
    (∀ reservation ∈ snapshot.reservations.reservations,
      validateReservation snapshot reservation = .ok ()) ∧
    (snapshot.reservations.reservations.map Reservation.id).Nodup := by
  have checked := ((validateStructure_eq_ok snapshot).mp accepted.valid).2.2.1
  simp only [validateReservations, check_bind_eq_ok, require_eq_ok, checkAll_eq_ok,
    decide_eq_true_eq] at checked
  obtain ⟨-, -, -, bounded, each, distinct⟩ := checked
  exact ⟨bounded, each, requireDistinct_nodup distinct⟩

theorem path_checks (accepted : Accepted snapshot) :
    (∀ path ∈ snapshot.paths, validatePath snapshot path = .ok ()) ∧
    (snapshot.paths.map (fun path => path.id)).Nodup := by
  have checked := ((validateStructure_eq_ok snapshot).mp accepted.valid).2.2.2.2.2.1
  simp only [validatePaths, check_bind_eq_ok, checkAll_eq_ok] at checked
  exact ⟨checked.1, requireDistinct_nodup checked.2.1⟩

theorem demand_checks (accepted : Accepted snapshot) :
    (∀ demand ∈ snapshot.demands, validateDemand snapshot demand = .ok ()) ∧
    (snapshot.demands.map Demand.id).Nodup := by
  have checked := ((validateStructure_eq_ok snapshot).mp accepted.valid).2.2.2.2.2.2
  simp only [validateDemands, check_bind_eq_ok, checkAll_eq_ok] at checked
  exact ⟨checked.1, requireDistinct_nodup checked.2⟩

theorem resources_strict (accepted : Accepted snapshot) :
    snapshot.capacity.resources.Pairwise (fun first second => first.id < second.id) :=
  pairwise_lt_of_le_of_nodup _ _ accepted.resources_sorted accepted.capacity_checks.2.2

theorem paths_strict (accepted : Accepted snapshot) :
    snapshot.paths.Pairwise (fun first second => first.id < second.id) :=
  pairwise_lt_of_le_of_nodup (fun path : CandidatePath => path.id) _ accepted.paths_sorted
    accepted.path_checks.2

theorem demands_strict (accepted : Accepted snapshot) :
    snapshot.demands.Pairwise (fun first second => first.id < second.id) :=
  pairwise_lt_of_le_of_nodup _ _ accepted.demands_sorted accepted.demand_checks.2

/-! Ranges and references. -/

theorem demands_length (accepted : Accepted snapshot) :
    snapshot.demands.length ≤ Limits.maxDemands := by
  have checked := ((validateStructure_eq_ok snapshot).mp accepted.valid).1
  simp only [validateHeader, check_bind_eq_ok, require_eq_ok, decide_eq_true_eq] at checked
  exact checked.2.2.2.2.2.2.2.1

theorem paths_length (accepted : Accepted snapshot) :
    snapshot.paths.length ≤ Limits.maxTotalCandidatePaths := by
  have checked := ((validateStructure_eq_ok snapshot).mp accepted.valid).1
  simp only [validateHeader, check_bind_eq_ok, require_eq_ok, decide_eq_true_eq] at checked
  exact checked.2.2.2.2.2.2.2.2

theorem policy_cap (accepted : Accepted snapshot) :
    0 < snapshot.policy.maxUtilizationPermille ∧
      snapshot.policy.maxUtilizationPermille ≤ 1000 := by
  have checked := ((validateStructure_eq_ok snapshot).mp accepted.valid).2.2.2.1
  simp only [validatePolicy, check_bind_eq_ok, require_eq_ok, Bool.and_eq_true,
    decide_eq_true_eq] at checked
  exact checked.2.2.1

theorem resource_range (accepted : Accepted snapshot) {resource : FabricResource}
    (member : resource ∈ snapshot.capacity.resources) :
    (0 ≤ resource.usableCapacity ∧ resource.usableCapacity ≤ Limits.maxBandwidth) ∧
    (0 ≤ resource.committedLoad ∧ resource.committedLoad ≤ Limits.maxBandwidth) := by
  have checked := accepted.capacity_checks.2.1 resource member
  simp only [validateResource, check_bind_eq_ok, require_eq_ok, inRange_iff] at checked
  exact ⟨checked.2.2.2.1, checked.2.2.2.2.1⟩

theorem reservation_range (accepted : Accepted snapshot) {reservation : Reservation}
    (member : reservation ∈ snapshot.reservations.reservations) :
    0 ≤ reservation.bandwidth ∧ reservation.bandwidth ≤ Limits.maxBandwidth := by
  have checked := accepted.reservation_checks.2.1 reservation member
  simp only [validateReservation, check_bind_eq_ok, require_eq_ok, inRange_iff] at checked
  exact checked.2.2.2.1

theorem reservation_resources_known (accepted : Accepted snapshot) {reservation : Reservation}
    (member : reservation ∈ snapshot.reservations.reservations) :
    ∀ resource ∈ reservation.resources,
      resource ∈ snapshot.capacity.resources.map FabricResource.id := by
  have checked := accepted.reservation_checks.2.1 reservation member
  simp only [validateReservation, check_bind_eq_ok, require_eq_ok, checkAll_eq_ok,
    knownResource_iff] at checked
  exact checked.2.2.2.2

theorem path_resources (accepted : Accepted snapshot) {path : CandidatePath}
    (member : path ∈ snapshot.paths) :
    path.resources ≠ [] ∧ path.resources.length ≤ Limits.maxResourcesPerPath ∧
    ∀ resource ∈ path.resources,
      resource ∈ snapshot.capacity.resources.map FabricResource.id := by
  have checked := accepted.path_checks.1 path member
  simp only [validatePath, check_bind_eq_ok, require_eq_ok, checkAll_eq_ok,
    knownResource_iff, decide_eq_true_eq] at checked
  obtain ⟨-, -, -, -, -, -, present, bounded, known, -⟩ := checked
  exact ⟨by simpa using present, bounded, known⟩

theorem demand_valid (accepted : Accepted snapshot) {demand : Demand}
    (member : demand ∈ snapshot.demands) : demand.id.valid = true := by
  have checked := accepted.demand_checks.1 demand member
  simp only [validateDemand, check_bind_eq_ok, require_eq_ok] at checked
  exact checked.1

theorem path_named (accepted : Accepted snapshot) {path : CandidatePath} (member : path ∈ snapshot.paths) :
    path.id.valid = true ∧ path.generation.valid = true := by
  have checked := accepted.path_checks.1 path member
  simp only [validatePath, check_bind_eq_ok, require_eq_ok] at checked
  exact ⟨checked.1, checked.2.1⟩

theorem demand_named (accepted : Accepted snapshot) {demand : Demand} (member : demand ∈ snapshot.demands) :
    demand.id.valid = true ∧ demand.generation.valid = true := by
  have checked := accepted.demand_checks.1 demand member
  simp only [validateDemand, check_bind_eq_ok, require_eq_ok] at checked
  exact ⟨checked.1, checked.2.1⟩

theorem resource_named (accepted : Accepted snapshot) {resource : FabricResource}
    (member : resource ∈ snapshot.capacity.resources) :
    resource.id.valid = true ∧ resource.generation.valid = true := by
  have checked := accepted.capacity_checks.2.1 resource member
  simp only [validateResource, check_bind_eq_ok, require_eq_ok] at checked
  exact ⟨checked.1, checked.2.1⟩

theorem terms_length (accepted : Accepted snapshot) : snapshot.objective.terms.length ≤ 16 := by
  have checked := ((validateStructure_eq_ok snapshot).1 accepted.valid).2.2.2.2.1
  simp only [validateObjective, check_bind_eq_ok, require_eq_ok, decide_eq_true_eq] at checked
  exact checked.2.2.2.1

theorem policy_range (accepted : Accepted snapshot) :
    (0 ≤ snapshot.policy.churnImprovementThresholdPermille ∧
      snapshot.policy.churnImprovementThresholdPermille ≤ 1000) ∧
    (0 ≤ snapshot.policy.churnMaxMovedBandwidthPermille ∧
      snapshot.policy.churnMaxMovedBandwidthPermille ≤ 1000) ∧
    (0 ≤ snapshot.policy.churnMaxOperationalRiskPermille ∧
      snapshot.policy.churnMaxOperationalRiskPermille ≤ 1000) ∧
    snapshot.policy.maxPathsPerDemand.toNat ≤ Limits.maxPathsPerDemand := by
  have checked := ((validateStructure_eq_ok snapshot).1 accepted.valid).2.2.2.1
  simp only [validatePolicy, check_bind_eq_ok, require_eq_ok, inRange_iff, decide_eq_true_eq] at checked
  exact checked.2.2.2

theorem demand_range (accepted : Accepted snapshot) {demand : Demand}
    (member : demand ∈ snapshot.demands) :
    0 ≤ demand.minimumBandwidth ∧ demand.minimumBandwidth ≤ demand.desiredBandwidth ∧
    demand.desiredBandwidth ≤ demand.maximumBandwidth ∧
    demand.maximumBandwidth ≤ Limits.maxBandwidth := by
  have checked := accepted.demand_checks.1 demand member
  simp only [validateDemand, check_bind_eq_ok, require_eq_ok, inRange_iff,
    decide_eq_true_eq] at checked
  obtain ⟨-, -, -, -, minimum, -, maximum, low, high, -⟩ := checked
  exact ⟨minimum.1, low, high, maximum.2⟩

end Accepted

/-! The smallest fabric validation accepts: one resource, one path over it, one demand. -/

def named {kind : IdKind} (literal : String) : Id kind := (Id.parse (text literal)).getD Id.none

def linkProvenance : Provenance := { source := named "inventory" }

def linkResource : FabricResource :=
  { id := named "link-1"
    generation := Gen.first
    provenance := linkProvenance
    usableCapacity := 100 }

def linkPath : CandidatePath :=
  { id := named "path-1"
    generation := Gen.first
    authority := ⟨named "path-1", Gen.first⟩
    candidateSet := ⟨named "set-1", Gen.first⟩
    resources := [named "link-1"]
    cost := 1
    provenance := linkProvenance }

def linkDemand : Demand :=
  { id := named "demand-1"
    generation := Gen.first
    provenance := linkProvenance
    tenant := named "tenant-1"
    serviceClass := named "gold"
    minimumBandwidth := 10
    desiredBandwidth := 10
    maximumBandwidth := 10
    candidateSet := ⟨named "set-1", Gen.first⟩ }

def linkFabric : FabricSnapshot :=
  { fabricEpoch := Gen.first
    topologyGeneration := Gen.first
    linkStateGeneration := Gen.first
    pathAuthorityGeneration := Gen.first
    failureDomainGeneration := Gen.first
    provenance := linkProvenance
    capacity :=
      { id := named "capacity-1"
        generation := Gen.first
        fabricEpoch := Gen.first
        provenance := linkProvenance
        resources := [linkResource] }
    reservations :=
      { id := named "reservations-1"
        generation := Gen.first
        fabricEpoch := Gen.first
        provenance := linkProvenance }
    policy := { id := named "policy-1", generation := Gen.first, provenance := linkProvenance }
    objective :=
      { id := named "objective-1"
        generation := Gen.first
        provenance := linkProvenance
        terms := [{ term := .satisfyMinimums, weight := 1 }] }
    candidateSet := ⟨named "set-1", Gen.first⟩
    demands := [linkDemand]
    paths := [linkPath] }

theorem accepted_of_checks (snapshot : FabricSnapshot)
    (fixed : canonicalize snapshot = snapshot)
    (checked : (validateStructure snapshot).toBool = true) : Accepted snapshot := by
  refine ⟨⟨snapshot, fixed⟩, ?_⟩
  cases result : validateStructure snapshot with
  | ok done => rfl
  | error reason => simp [result, Except.toBool] at checked

theorem linkFabric_accepted : Accepted linkFabric :=
  accepted_of_checks linkFabric (by decide +kernel) (by decide +kernel)

/-! A fabric with something to choose: three links, three paths over them, and two demands. The second
demand may not use the first path, and the third link cannot carry all that it asks for. -/

def meshResource (literal : String) (capacity : Int) : FabricResource :=
  { linkResource with
    id := named literal
    usableCapacity := capacity }

def meshPath (literal : String) (resources : List ResourceId) (cost : Int) : CandidatePath :=
  { linkPath with
    id := named literal
    authority := ⟨named literal, Gen.first⟩
    resources := resources
    cost := cost }

def meshDemands : List Demand :=
  [{ linkDemand with
      minimumBandwidth := 50
      desiredBandwidth := 80
      maximumBandwidth := 120 },
    { linkDemand with
      id := named "demand-2"
      minimumBandwidth := 30
      desiredBandwidth := 70
      maximumBandwidth := 70
      allowedPaths := [named "path-2", named "path-3"] }]

def meshFabric : FabricSnapshot :=
  { linkFabric with
    capacity := { linkFabric.capacity with
      resources := [meshResource "link-1" 100, meshResource "link-2" 60, meshResource "link-3" 40] }
    demands := meshDemands
    paths := [meshPath "path-1" [named "link-1"] 1, meshPath "path-2" [named "link-2", named "link-3"] 2,
      meshPath "path-3" [named "link-1", named "link-3"] 3] }

theorem meshFabric_accepted : Accepted meshFabric :=
  accepted_of_checks meshFabric (by decide +kernel) (by decide +kernel)

end TrafficFabric
