import TrafficFabric.AuthorityBinding

set_option autoImplicit false

/- The bytes behind the six content digests: two validated snapshots have the same bytes hashed exactly when
they hold the same contents, up to the parts of a provenance that are not written. -/
namespace TrafficFabric

open Writer (sequence sequence_fact sequence_map demand_delimits path_delimits resource_delimits
  reservation_delimits policy_delimits objectiveProfile_delimits)

/-- Of one length, and alike at every place in what is written. -/
structure Alike {α : Type} (written : α → α) (first second : List α) : Prop where
  lengths : first.length = second.length
  fields : ∀ index (left : index < first.length) (right : index < second.length),
    written first[index] = written second[index]

theorem alike_iff {α : Type} {written : α → α} {first second : List α} :
    Alike written first second ↔ first.map written = second.map written := by
  constructor
  · intro alike
    apply List.ext_getElem
    · rw [List.length_map, List.length_map, alike.lengths]
    · intro index left right
      rw [List.getElem_map, List.getElem_map]
      exact alike.fields index _ _
  · intro same
    have lengths : first.length = second.length := by
      simpa using congrArg List.length same
    refine ⟨lengths, fun index left right => ?_⟩
    have place := congrArg (fun items => items[index]?) same
    simpa [left, right] using place

/-- A sequence is hashed by images that tell its elements apart. -/
theorem alike_of_image {α : Type} {valid : α → Prop} {image : α → List UInt8} {written : α → α}
    (delimits : Delimits valid image written) (hidden : ∀ item, image (written item) = image item)
    {first second : List α} (left : ∀ item ∈ first, valid item) (right : ∀ item ∈ second, valid item)
    (leftFits : FitsCount first.length) (rightFits : FitsCount second.length) :
    sequence image first = sequence image second ↔ Alike written first second := by
  rw [alike_iff]
  constructor
  · intro same
    exact sequence_fact delimits left right leftFits rightFits same
  · intro same
    rw [← sequence_map hidden first, ← sequence_map hidden second, same]

/-- The lists a snapshot may hold in any length are counted in 32 bits. -/
structure ShortLists (snapshot : FabricSnapshot) : Prop extends FitsWriter snapshot where
  bindings : ∀ demand ∈ snapshot.demands, FitsCount demand.reservationBindings.length
  resources : ∀ reservation ∈ snapshot.reservations.reservations, FitsCount reservation.resources.length

/-- The bytes that are hashed show the contents. -/
structure ImagesShow (first second : FabricSnapshot) : Prop where
  demands : sequence Writer.demand first.demands = sequence Writer.demand second.demands ↔
    Alike Demand.written first.demands second.demands
  paths : sequence Writer.path first.paths = sequence Writer.path second.paths ↔
    Alike CandidatePath.written first.paths second.paths
  resources : sequence Writer.resource first.capacity.resources =
      sequence Writer.resource second.capacity.resources ↔
    Alike FabricResource.written first.capacity.resources second.capacity.resources
  reservations : sequence Writer.reservation first.reservations.reservations =
      sequence Writer.reservation second.reservations.reservations ↔
    Alike Reservation.written first.reservations.reservations second.reservations.reservations
  policy : Writer.policy first.policy = Writer.policy second.policy ↔
    first.policy.written = second.policy.written
  objective : Writer.objectiveProfile first.objective = Writer.objectiveProfile second.objective ↔
    first.objective.written = second.objective.written

/-- The digests show the contents. -/
structure DigestsShow (first second : FabricSnapshot) : Prop where
  demands : demandSetDigest first.demands = demandSetDigest second.demands ↔
    Alike Demand.written first.demands second.demands
  paths : candidateSetDigest first.paths = candidateSetDigest second.paths ↔
    Alike CandidatePath.written first.paths second.paths
  resources : resourceCatalogDigest first.capacity.resources =
    resourceCatalogDigest second.capacity.resources ↔
    Alike FabricResource.written first.capacity.resources second.capacity.resources
  reservations : reservationSetDigest first.reservations.reservations =
      reservationSetDigest second.reservations.reservations ↔
    Alike Reservation.written first.reservations.reservations second.reservations.reservations
  policy : policyDigest first.policy = policyDigest second.policy ↔
    first.policy.written = second.policy.written
  objective : objectiveProfileDigest first.objective = objectiveProfileDigest second.objective ↔
    first.objective.written = second.objective.written

section Short

variable {snapshot : FabricSnapshot} (valid : validateStructure snapshot = .ok ())

include valid

theorem ShortLists.demand (short : ShortLists snapshot) {demand : Demand}
    (member : demand ∈ snapshot.demands) :
    demand.Writable :=
  Demand.writable_of_checked (checked_demand valid member) (short.domains demand member)
    (short.bindings demand member) (short.demandLabels demand member)

theorem ShortLists.path (short : ShortLists snapshot) {path : CandidatePath}
    (member : path ∈ snapshot.paths) :
    path.Writable :=
  CandidatePath.writable_of_checked (checked_path valid member) (short.policyLabels path member)

theorem ShortLists.reservation (short : ShortLists snapshot) {reservation : Reservation}
    (member : reservation ∈ snapshot.reservations.reservations) : reservation.Writable :=
  Reservation.writable_of_checked (checked_reservation valid member) (short.paths reservation member)
    (short.resources reservation member)

theorem ShortLists.policy (short : ShortLists snapshot) : snapshot.policy.Writable :=
  Policy.writable_of_checked ((validateStructure_eq_ok snapshot).1 valid).2.2.2.1 short.tenants
    short.serviceClasses

/-- The four collections of a validated snapshot are bounded. -/
theorem fitsCount_collections : FitsCount snapshot.demands.length ∧ FitsCount snapshot.paths.length ∧
    FitsCount snapshot.capacity.resources.length ∧ FitsCount snapshot.reservations.reservations.length := by
  obtain ⟨header, capacity, reservations, -⟩ := (validateStructure_eq_ok snapshot).1 valid
  simp only [validateHeader, check_bind_eq_ok, require_eq_ok, decide_eq_true_eq] at header
  simp only [validateCapacity, check_bind_eq_ok, require_eq_ok, decide_eq_true_eq] at capacity
  simp only [validateReservations, check_bind_eq_ok, require_eq_ok, decide_eq_true_eq] at reservations
  exact ⟨fitsCount_of_le header.2.2.2.2.2.2.2.1 (by decide),
    fitsCount_of_le header.2.2.2.2.2.2.2.2 (by decide),
    fitsCount_of_le capacity.2.2.2.1 (by decide), fitsCount_of_le reservations.2.2.2.1 (by decide)⟩

end Short

theorem images_show {first second : FabricSnapshot} (firstValid : validateStructure first = .ok ())
    (secondValid : validateStructure second = .ok ()) (firstShort : ShortLists first)
    (secondShort : ShortLists second) : ImagesShow first second := by
  obtain ⟨demands, paths, resources, reservations⟩ := fitsCount_collections firstValid
  obtain ⟨otherDemands, otherPaths, otherResources, otherReservations⟩ := fitsCount_collections secondValid
  refine ⟨?_, ?_, ?_, ?_, ?_, ?_⟩
  · exact alike_of_image demand_delimits (fun _ => rfl) (fun _ => firstShort.demand firstValid)
      (fun _ => secondShort.demand secondValid) demands otherDemands
  · exact alike_of_image path_delimits (fun _ => rfl) (fun _ => firstShort.path firstValid)
      (fun _ => secondShort.path secondValid) paths otherPaths
  · exact alike_of_image resource_delimits (fun _ => rfl)
      (fun _ member => FabricResource.writable_of_checked (checked_resource firstValid member))
      (fun _ member => FabricResource.writable_of_checked (checked_resource secondValid member)) resources
      otherResources
  · exact alike_of_image reservation_delimits (fun _ => rfl) (fun _ => firstShort.reservation firstValid)
      (fun _ => secondShort.reservation secondValid) reservations otherReservations
  · constructor
    · exact policy_delimits.fact_eq (firstShort.policy firstValid) (secondShort.policy secondValid)
    · intro same
      change Writer.policy first.policy.written = Writer.policy second.policy.written
      rw [same]
  · constructor
    · exact objectiveProfile_delimits.fact_eq
        (fitsCount_terms ((validateStructure_eq_ok first).1 firstValid).2.2.2.2.1)
        (fitsCount_terms ((validateStructure_eq_ok second).1 secondValid).2.2.2.2.1)
    · intro same
      change Writer.objectiveProfile first.objective.written =
        Writer.objectiveProfile second.objective.written
      rw [same]

/-- Without a collision the digests are as good as the bytes. -/
theorem ImagesShow.digests {first second : FabricSnapshot} (images : ImagesShow first second)
    (collisionFree : CollisionFree first second) : DigestsShow first second := by
  have separated : ∀ {domain : Text} {left right : List UInt8}, Separates domain left right →
      (digestWithDomain domain left = digestWithDomain domain right ↔ left = right) := fun separates =>
    ⟨separates, fun same => by rw [same]⟩
  exact
    { demands := (separated collisionFree.demands).trans images.demands
      paths := (separated collisionFree.paths).trans images.paths
      resources := (separated collisionFree.resources).trans images.resources
      reservations := (separated collisionFree.reservations).trans images.reservations
      policy := (separated collisionFree.policy).trans images.policy
      objective := (separated collisionFree.objective).trans images.objective }

/-- What is hashed of two validated snapshots is the same when their contents are, and so are the digests
unless the hash collides. -/
theorem contents_hashed {first second : FabricSnapshot} (firstValid : validateStructure first = .ok ())
    (secondValid : validateStructure second = .ok ()) (firstShort : ShortLists first)
    (secondShort : ShortLists second) :
    ImagesShow first second ∧ (CollisionFree first second → DigestsShow first second) :=
  ⟨images_show firstValid secondValid firstShort secondShort, fun collisionFree =>
    (images_show firstValid secondValid firstShort secondShort).digests collisionFree⟩

/-- The link, with a note on where its demand comes from. -/
def notedFabric : FabricSnapshot :=
  { linkFabric with
    demands := [{ linkDemand with provenance := { linkProvenance with detail := text "ticket 7" } }] }

theorem contents_hashed_noted :
    DigestsShow linkFabric notedFabric ∧ Alike Demand.written linkFabric.demands notedFabric.demands := by
  have fits : ShortLists linkFabric := by
    refine ⟨⟨?_, ?_, ?_, ?_, ?_, ?_⟩, ?_, ?_⟩ <;> decide +kernel
  have notedFits : ShortLists notedFabric := by
    refine ⟨⟨?_, ?_, ?_, ?_, ?_, ?_⟩, ?_, ?_⟩ <;> decide +kernel
  have valid : validateStructure notedFabric = .ok () := by decide +kernel
  have hashed := contents_hashed linkFabric_accepted.valid valid fits notedFits
  -- The note is not hashed, so both give the same six payloads.
  have collisionFree : CollisionFree linkFabric notedFabric := by
    constructor <;> exact fun _ => rfl
  exact ⟨hashed.2 collisionFree, hashed.1.demands.1 rfl⟩

end TrafficFabric
