import TrafficFabric.AuthorityBinding
import TrafficFabric.SnapshotImages
import TrafficFabric.SnapshotStrict

set_option autoImplicit false

/- Which valid snapshots the wire format carries. The readers bound every list and every text;
validation asks for some of these bounds only. -/
namespace TrafficFabric

open SnapshotCodec (writeResource writeReservation writePath writeDemand writePolicy length_le_sequence
  length_mem_le_sequence length_le_ids length_str length_encodeSnapshot_lt encodeSnapshot_inj)

/-! The bounds of the readers that validation does not ask for. -/

@[mk_iff]
structure FabricResource.Transportable (resource : FabricResource) : Prop where
  detail : resource.provenance.detail.length ≤ Limits.maxTextLength
  domains : ∀ domain ∈ resource.failureDomains, domain.valid = true

@[mk_iff]
structure Reservation.Transportable (reservation : Reservation) : Prop where
  detail : reservation.provenance.detail.length ≤ Limits.maxTextLength
  paths : NamedWithin Limits.maxConstraintRefs reservation.paths
  resources : reservation.resources.length ≤ Limits.maxResourcesPerPath

@[mk_iff]
structure CandidatePath.Transportable (path : CandidatePath) : Prop where
  detail : path.provenance.detail.length ≤ Limits.maxTextLength
  domains : ∀ domain ∈ path.failureDomains, domain.valid = true
  labels : path.policyLabels.length ≤ Limits.maxConstraintRefs * 2 ∧
    ∀ label ∈ path.policyLabels, label.length ≤ Limits.maxTextLength

@[mk_iff]
structure Demand.Transportable (demand : Demand) : Prop where
  detail : demand.provenance.detail.length ≤ Limits.maxTextLength
  allowed : ∀ path ∈ demand.allowedPaths, path.valid = true
  forbidden : ∀ path ∈ demand.forbiddenPaths, path.valid = true
  domains : NamedWithin Limits.maxDomainsPerPath demand.requiredFailureDomains
  bindings : demand.reservationBindings.length ≤ Limits.maxConstraintRefs
  labels : demand.labels.length ≤ Limits.maxConstraintRefs * 4

@[mk_iff]
structure Policy.Transportable (policy : Policy) : Prop where
  detail : policy.provenance.detail.length ≤ Limits.maxTextLength
  tenants : NamedWithin (Limits.maxConstraintRefs * 4) policy.allowedTenants
  serviceClasses : NamedWithin (Limits.maxConstraintRefs * 4) policy.allowedServiceClasses

@[mk_iff]
structure FabricSnapshot.Transportable (snapshot : FabricSnapshot) : Prop where
  detail : snapshot.provenance.detail.length ≤ Limits.maxTextLength
  capacityDetail : snapshot.capacity.provenance.detail.length ≤ Limits.maxTextLength
  resources : ∀ resource ∈ snapshot.capacity.resources, resource.Transportable
  reservationsDetail : snapshot.reservations.provenance.detail.length ≤ Limits.maxTextLength
  reservations : ∀ reservation ∈ snapshot.reservations.reservations, reservation.Transportable
  policy : snapshot.policy.Transportable
  objectiveDetail : snapshot.objective.provenance.detail.length ≤ Limits.maxTextLength
  demands : ∀ demand ∈ snapshot.demands, demand.Transportable
  paths : ∀ path ∈ snapshot.paths, path.Transportable

instance {kind : IdKind} (limit : Nat) (ids : List (Id kind)) : Decidable (NamedWithin limit ids) :=
  inferInstanceAs (Decidable (_ ∧ _))

instance (resource : FabricResource) : Decidable resource.Transportable :=
  decidable_of_iff _ (FabricResource.transportable_iff resource).symm

instance (reservation : Reservation) : Decidable reservation.Transportable :=
  decidable_of_iff _ (Reservation.transportable_iff reservation).symm

instance (path : CandidatePath) : Decidable path.Transportable :=
  decidable_of_iff _ (CandidatePath.transportable_iff path).symm

instance (demand : Demand) : Decidable demand.Transportable :=
  decidable_of_iff _ (Demand.transportable_iff demand).symm

instance (policy : Policy) : Decidable policy.Transportable :=
  decidable_of_iff _ (Policy.transportable_iff policy).symm

instance (snapshot : FabricSnapshot) : Decidable snapshot.Transportable :=
  decidable_of_iff _ (FabricSnapshot.transportable_iff snapshot).symm

/-- What the readers take is within their bounds. -/
theorem FabricSnapshot.Readable.transportable {snapshot : FabricSnapshot} (readable : snapshot.Readable) :
    snapshot.Transportable where
  detail := readable.header.provenance.detail
  capacityDetail := readable.capacity.provenance.detail
  resources := fun resource member =>
    have inside := readable.capacity.resources resource member
    ⟨inside.provenance.detail, inside.domains.2⟩
  reservationsDetail := readable.reservations.provenance.detail
  reservations := fun reservation member =>
    have inside := readable.reservations.reservations reservation member
    ⟨inside.provenance.detail, inside.paths, inside.resources.1⟩
  policy := ⟨readable.policy.provenance.detail, readable.policy.tenants, readable.policy.serviceClasses⟩
  objectiveDetail := readable.objective.provenance.detail
  demands := fun demand member =>
    have inside := readable.demands demand member
    ⟨inside.provenance.detail, inside.allowed.2, inside.forbidden.2, inside.domains, inside.bindings.1,
      inside.labels.1⟩
  paths := fun path member =>
    have inside := readable.paths path member
    ⟨inside.provenance.detail, inside.domains.2, inside.labels⟩

/-! What validation asks for, element by element. -/

section Checked

variable {snapshot : FabricSnapshot} (valid : validateStructure snapshot = .ok ())

include valid

/-- A resource that is known has a name. -/
theorem named_of_known {resource : ResourceId} (known : knownResource snapshot resource = true) :
    resource.valid = true := by
  rw [knownResource_iff, List.mem_map] at known
  obtain ⟨entry, member, rfl⟩ := known
  have checked := checked_resource valid member
  simp only [validateResource, check_bind_eq_ok, require_eq_ok] at checked
  exact checked.1

theorem named_of_demand {other : DemandId}
    (known : (snapshot.demands.map Demand.id).contains other = true) :
    other.valid = true := by
  rw [List.contains_iff_mem, List.mem_map] at known
  obtain ⟨entry, member, rfl⟩ := known
  have checked := checked_demand valid member
  simp only [validateDemand, check_bind_eq_ok, require_eq_ok] at checked
  exact checked.1

theorem named_of_reservation {binding : ReservationId}
    (known : (snapshot.reservations.reservations.map Reservation.id).contains binding = true) :
    binding.valid = true := by
  rw [List.contains_iff_mem, List.mem_map] at known
  obtain ⟨entry, member, rfl⟩ := known
  have checked := checked_reservation valid member
  simp only [validateReservation, check_bind_eq_ok, require_eq_ok] at checked
  exact checked.1

/-! Valid and within the other bounds is readable. -/

theorem readable_resource {resource : FabricResource} (member : resource ∈ snapshot.capacity.resources)
    (within : resource.Transportable) : resource.Readable := by
  have checked := checked_resource valid member
  simp only [validateResource, check_bind_eq_ok, require_eq_ok, decide_eq_true_eq] at checked
  obtain ⟨named, numbered, sourced, usable, committed, few⟩ := checked
  exact ⟨named, numbered, inInt64_of_inRange usable (by decide), inInt64_of_inRange committed (by decide),
    ⟨few, within.domains⟩, ⟨sourced, within.detail⟩⟩

theorem readable_reservation {reservation : Reservation}
    (member : reservation ∈ snapshot.reservations.reservations) (within : reservation.Transportable) :
    reservation.Readable := by
  have checked := checked_reservation valid member
  simp only [validateReservation, check_bind_eq_ok, require_eq_ok, checkAll_eq_ok] at checked
  obtain ⟨named, numbered, sourced, width, known⟩ := checked
  exact ⟨named, numbered, within.paths,
    ⟨within.resources, fun resource listed => named_of_known valid (known resource listed)⟩,
    inInt64_of_inRange width (by decide), ⟨sourced, within.detail⟩⟩

theorem readable_path {path : CandidatePath} (member : path ∈ snapshot.paths)
    (within : path.Transportable) :
    path.Readable := by
  have header := ((validateStructure_eq_ok snapshot).1 valid).1
  simp only [validateHeader, check_bind_eq_ok, require_eq_ok] at header
  have checked := checked_path valid member
  simp only [validatePath, check_bind_eq_ok, require_eq_ok, checkAll_eq_ok, decide_eq_true_eq, beq_iff_eq]
    at checked
  obtain ⟨named, numbered, authorised, -, listed, sourced, -, few, known, domains, cost,
    latency, -⟩ := checked
  exact
    { named := named
      numbered := numbered
      authority := authorised
      candidateSet := by rw [listed]; exact header.2.2.2.2.2.2.1
      resources := ⟨few, fun resource inside => named_of_known valid (known resource inside)⟩
      domains := ⟨domains, within.domains⟩
      labels := within.labels
      cost := inInt64_of_inRange cost (by decide)
      latency := inInt64_of_optionalInRange latency (by decide)
      provenance := ⟨sourced, within.detail⟩ }

theorem readable_demand {demand : Demand} (member : demand ∈ snapshot.demands)
    (within : demand.Transportable) :
    demand.Readable := by
  have header := ((validateStructure_eq_ok snapshot).1 valid).1
  simp only [validateHeader, check_bind_eq_ok, require_eq_ok] at header
  have checked := checked_demand valid member
  simp only [validateDemand, validateAffinity, check_bind_eq_ok, require_eq_ok, checkAll_eq_ok,
    Bool.and_eq_true, decide_eq_true_eq, beq_iff_eq] at checked
  obtain ⟨named, numbered, sourced, listed, minimum, desired, maximum, -, -, latency,
    cost, -, few, together,
    apart, bindings, labels⟩ := checked
  exact
    { named := named
      numbered := numbered
      provenance := ⟨sourced, within.detail⟩
      minimum := inInt64_of_inRange minimum (by decide)
      desired := inInt64_of_inRange desired (by decide)
      maximum := inInt64_of_inRange maximum (by decide)
      latency := inInt64_of_optionalInRange latency (by decide)
      cost := inInt64_of_optionalInRange cost (by decide)
      candidateSet := by rw [listed]; exact header.2.2.2.2.2.2.1
      allowed := ⟨few.1.1.1, within.allowed⟩
      forbidden := ⟨few.1.1.2, within.forbidden⟩
      affinity := ⟨few.1.2, fun other inside => named_of_demand valid (together other inside).2⟩
      antiAffinity := ⟨few.2, fun other inside => named_of_demand valid (apart other inside).2⟩
      domains := within.domains
      bindings := ⟨within.bindings, fun binding inside => named_of_reservation valid
        (bindings binding inside)⟩
      labels := ⟨within.labels, fun label inside => ⟨(labels label inside).1.2, (labels label inside).2⟩⟩ }

theorem readable_policy (within : snapshot.policy.Transportable) : snapshot.policy.Readable := by
  have checked := ((validateStructure_eq_ok snapshot).1 valid).2.2.2.1
  simp only [validatePolicy, check_bind_eq_ok, require_eq_ok, Bool.and_eq_true,
    decide_eq_true_eq] at checked
  obtain ⟨⟨named, numbered⟩, sourced, utilization, improvement, moved, risk, -⟩ := checked
  have cap : InInt64 snapshot.policy.maxUtilizationPermille := by
    unfold InInt64 int64Min int64Max
    omega
  exact ⟨named, numbered, ⟨sourced, within.detail⟩, cap, inInt64_of_inRange improvement (by decide),
    inInt64_of_inRange moved (by decide), inInt64_of_inRange risk (by decide), within.tenants,
    within.serviceClasses⟩

theorem FabricSnapshot.Transportable.readable (within : snapshot.Transportable) : snapshot.Readable := by
  obtain ⟨header, capacity, reservations, -, objective, -, -⟩ := (validateStructure_eq_ok snapshot).1 valid
  simp only [validateHeader, check_bind_eq_ok, require_eq_ok, decide_eq_true_eq] at header
  simp only [validateCapacity, check_bind_eq_ok, require_eq_ok, Bool.and_eq_true, decide_eq_true_eq,
    beq_iff_eq] at capacity
  simp only [validateReservations, check_bind_eq_ok, require_eq_ok, Bool.and_eq_true, decide_eq_true_eq,
    beq_iff_eq] at reservations
  simp only [validateObjective, check_bind_eq_ok, require_eq_ok, Bool.and_eq_true, decide_eq_true_eq]
    at objective
  obtain ⟨epoch, topology, linkState, pathAuthority, failureDomain, sourced, listed,
      demandCount, pathCount⟩ :=
    header
  obtain ⟨⟨capacityNamed, capacityNumbered⟩, capacitySourced, capacityEpoch, resourceCount, -⟩ := capacity
  obtain ⟨⟨reservationsNamed, reservationsNumbered⟩, reservationsSourced, reservationsEpoch,
      reservationCount, -⟩ :=
    reservations
  obtain ⟨⟨objectiveNamed, objectiveNumbered⟩, objectiveSourced, -, terms, -⟩ := objective
  exact
    { header := ⟨epoch, topology, linkState, pathAuthority, failureDomain, sourced, within.detail⟩
      capacity := ⟨capacityNamed, capacityNumbered, by rw [capacityEpoch]; exact epoch,
        ⟨capacitySourced, within.capacityDetail⟩, resourceCount, fun resource member =>
          readable_resource valid member (within.resources resource member)⟩
      reservations := ⟨reservationsNamed, reservationsNumbered, by rw [reservationsEpoch]; exact epoch,
        ⟨reservationsSourced, within.reservationsDetail⟩, reservationCount, fun reservation member =>
          readable_reservation valid member (within.reservations reservation member)⟩
      policy := readable_policy valid within.policy
      objective := ⟨objectiveNamed, objectiveNumbered, ⟨objectiveSourced, within.objectiveDetail⟩, terms⟩
      candidateSet := listed
      demandCount := demandCount
      demands := fun demand member => readable_demand valid member (within.demands demand member)
      pathCount := pathCount
      paths := fun path member => readable_path valid member (within.paths path member) }

end Checked

/-! A snapshot whose canonical form is carried, and whose encoding is short, fits its counts. -/

section Short

variable {snapshot : FabricSnapshot} (valid : validateStructure snapshot = .ok ())
  (canonical : (canonicalize snapshot).Readable) (short : (encodeSnapshot snapshot).length < 2 ^ 34)

/-- Each element takes four bytes at least. -/
theorem fits_of_short {size length : Nat} (inside : 4 * size ≤ length) (short : length < 2 ^ 34) :
    FitsCount size := by
  unfold FitsCount
  omega

include short in
theorem short_reservation {reservation : Reservation}
    (member : reservation ∈ snapshot.reservations.reservations) :
    (writeReservation reservation).length < 2 ^ 34 := by
  have inside := length_mem_le_sequence writeReservation member
  unfold encodeSnapshot SnapshotCodec.writeReservations at short
  simp only [List.length_append] at short
  omega

include short in
theorem short_path {path : CandidatePath} (member : path ∈ snapshot.paths) :
    (writePath path).length < 2 ^ 34 := by
  have inside := length_mem_le_sequence writePath member
  unfold encodeSnapshot at short
  simp only [List.length_append] at short
  omega

include short in
theorem short_demand {demand : Demand} (member : demand ∈ snapshot.demands) :
    (writeDemand demand).length < 2 ^ 34 := by
  have inside := length_mem_le_sequence writeDemand member
  unfold encodeSnapshot at short
  simp only [List.length_append] at short
  omega

include short in
theorem short_policy : (writePolicy snapshot.policy).length < 2 ^ 34 := by
  unfold encodeSnapshot at short
  simp only [List.length_append] at short
  omega

include valid canonical short

omit short in
theorem writable_of_canonical_resource {resource : FabricResource}
    (member : resource ∈ snapshot.capacity.resources) :
    resource.Writable ∧ resource.provenance.Writable := by
  have kept := canonical.capacity.resources (canonicalizeResource resource)
    ((mem_stableSort _ _ _).2 (List.mem_map_of_mem member))
  have detail : resource.provenance.Readable := kept.provenance
  exact ⟨FabricResource.writable_of_checked (checked_resource valid member), detail.writable⟩

theorem writable_of_canonical_reservation {reservation : Reservation}
    (member : reservation ∈ snapshot.reservations.reservations) :
    reservation.Writable ∧ reservation.provenance.Writable := by
  have small := short_reservation short member
  have paths := length_le_ids reservation.paths
  have resources := length_le_ids reservation.resources
  unfold writeReservation at small
  simp only [List.length_append] at small
  have kept := canonical.reservations.reservations (canonicalizeReservation reservation)
    ((mem_stableSort _ _ _).2 (List.mem_map_of_mem member))
  have detail : reservation.provenance.Readable := kept.provenance
  exact ⟨Reservation.writable_of_checked (checked_reservation valid member) (fits_of_short paths (by omega))
    (fits_of_short resources (by omega)), detail.writable⟩

theorem writable_of_canonical_path {path : CandidatePath} (member : path ∈ snapshot.paths) :
    path.Writable ∧ path.provenance.Writable := by
  have small := short_path short member
  have labels : 4 * path.policyLabels.length ≤ (Writer.strings path.policyLabels).length :=
    length_le_sequence (fun label => by rw [length_str]; omega) _
  unfold writePath at small
  simp only [List.length_append] at small
  have kept := canonical.paths (canonicalizePath path)
    ((mem_stableSort _ _ _).2 (List.mem_map_of_mem member))
  have detail : path.provenance.Readable := kept.provenance
  have texts : ∀ label ∈ path.policyLabels, FitsCount label.length := fun label inside =>
    lt_of_le_of_lt (kept.labels.2 label ((mem_sortUnique_id _ _).2 inside)) (by decide)
  exact ⟨CandidatePath.writable_of_checked (checked_path valid member)
    ⟨fits_of_short labels (by omega), texts⟩,
    detail.writable⟩

theorem writable_of_canonical_demand {demand : Demand} (member : demand ∈ snapshot.demands) :
    demand.Writable ∧ demand.provenance.Writable := by
  have small := short_demand short member
  have domains := length_le_ids demand.requiredFailureDomains
  have bindings := length_le_ids demand.reservationBindings
  have labels : 4 * demand.labels.length ≤ (Writer.labels demand.labels).length :=
    length_le_sequence (fun label => by rw [List.length_append, length_str]; omega) _
  unfold writeDemand at small
  simp only [List.length_append] at small
  have kept := canonical.demands (canonicalizeDemand demand)
    ((mem_stableSort _ _ _).2 (List.mem_map_of_mem member))
  have detail : demand.provenance.Readable := kept.provenance
  exact ⟨Demand.writable_of_checked (checked_demand valid member) (fits_of_short domains (by omega))
    (fits_of_short bindings (by omega)) (fits_of_short labels (by omega)), detail.writable⟩

omit valid in
theorem writable_of_canonical_policy :
    snapshot.policy.Writable ∧ snapshot.policy.provenance.Writable := by
  have small := short_policy short
  have tenants := length_le_ids snapshot.policy.allowedTenants
  have serviceClasses := length_le_ids snapshot.policy.allowedServiceClasses
  unfold writePolicy at small
  simp only [List.length_append] at small
  have kept := canonical.policy
  have detail : snapshot.policy.provenance.Readable := kept.provenance
  exact ⟨⟨kept.utilization, kept.improvement, kept.moved, kept.risk, fits_of_short tenants (by omega),
    fits_of_short serviceClasses (by omega)⟩, detail.writable⟩

theorem writable_of_canonical : snapshot.Writable := by
  have capacityCount : snapshot.capacity.resources.length ≤ Limits.maxResources :=
    le_of_eq_of_le ((length_stableSort _ _).trans (List.length_map _)).symm canonical.capacity.count
  have reservationCount : snapshot.reservations.reservations.length ≤ Limits.maxReservations :=
    le_of_eq_of_le ((length_stableSort _ _).trans (List.length_map _)).symm canonical.reservations.count
  have demandCount : snapshot.demands.length ≤ Limits.maxDemands :=
    le_of_eq_of_le ((length_stableSort _ _).trans (List.length_map _)).symm canonical.demandCount
  have pathCount : snapshot.paths.length ≤ Limits.maxTotalCandidatePaths :=
    le_of_eq_of_le ((length_stableSort _ _).trans (List.length_map _)).symm canonical.pathCount
  have provenance : snapshot.provenance.Readable := canonical.header.provenance
  have capacity : snapshot.capacity.provenance.Readable := canonical.capacity.provenance
  have reservations : snapshot.reservations.provenance.Readable := canonical.reservations.provenance
  exact
    { provenance := provenance.writable
      capacity := ⟨capacity.writable, fitsCount_of_le capacityCount (by decide), fun _ member =>
        writable_of_canonical_resource valid canonical member⟩
      reservations := ⟨reservations.writable, fitsCount_of_le reservationCount (by decide), fun _ member =>
        writable_of_canonical_reservation valid canonical short member⟩
      policy := writable_of_canonical_policy canonical short
      objective :=
        ⟨canonical.objective.provenance.writable, fitsCount_of_le canonical.objective.terms (by decide)⟩
      demandCount := fitsCount_of_le demandCount (by decide)
      demands := fun _ member => writable_of_canonical_demand valid canonical short member
      pathCount := fitsCount_of_le pathCount (by decide)
      paths := fun _ member => writable_of_canonical_path valid canonical short member }

end Short

/-- A valid snapshot is carried as its canonical form exactly when it is within the bounds of the
readers. -/
theorem snapshot_carried_iff {snapshot : FabricSnapshot} (valid : validateStructure snapshot = .ok ()) :
    decodeSnapshot (encodeSnapshot snapshot) = .ok (canonicalize snapshot) ↔ snapshot.Transportable := by
  constructor
  · intro carried
    obtain ⟨raw, image, readable, -, same⟩ := decodeSnapshot_eq_ok.1 carried
    have canonical : (canonicalize snapshot).Readable := by
      rw [← same]
      exact canonicalize_readable readable
    have short : (encodeSnapshot snapshot).length < 2 ^ 34 := by
      rw [image]
      exact length_encodeSnapshot_lt readable
    -- What was read back is what was written: both fit their counts.
    have read : snapshot = raw :=
      encodeSnapshot_inj (writable_of_canonical valid canonical short) readable.writable image
    rw [read]
    exact readable.transportable
  · intro within
    exact decodeSnapshot_of_readable (within.readable valid) valid

theorem snapshot_carried_iff_linkFabric :
    decodeSnapshot (encodeSnapshot linkFabric) = .ok (canonicalize linkFabric) := by
  have within : linkFabric.Transportable := by decide +kernel
  exact (snapshot_carried_iff linkFabric_accepted.valid).2 within

/-- The fabric with a demand that requires seventeen failure domains. -/
def scatteredFabric : FabricSnapshot :=
  { linkFabric with
    demands := [{ linkDemand with
      requiredFailureDomains := ["a", "b", "c", "d", "e", "f", "g", "h", "i", "j", "k", "l", "m", "n", "o",
        "p", "q"].map named }] }

theorem scatteredFabric_refused : validateStructure scatteredFabric = .ok () ∧
    decodeSnapshot (encodeSnapshot scatteredFabric) = fail .malformedInput
      (text "demand entry is malformed") := by
  decide +kernel

end TrafficFabric
