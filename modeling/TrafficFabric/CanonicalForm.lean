import TrafficFabric.Accepted

set_option autoImplicit false

/- Canonicalization changes nothing the second time, and what validation accepts it accepts in
canonical form. -/
namespace TrafficFabric

section Sorting

variable {K α : Type} [LinearOrder K]

theorem length_stableSort (key : α → K) (items : List α) : (stableSort key items).length = items.length :=
  (stableSort_perm key items).length_eq

theorem sortUnique_subset (key : α → K) (items : List α) {item : α} (member : item ∈ sortUnique key items) :
    item ∈ items :=
  (mem_stableSort key items item).1 ((List.destutter_sublist _ _).subset member)

theorem length_sortUnique_le (key : α → K) (items : List α) :
    (sortUnique key items).length ≤ items.length := by
  rw [← length_stableSort key items]
  exact (List.destutter_sublist _ _).length_le

theorem sortUnique_sortUnique (key : α → K) (items : List α) :
    sortUnique key (sortUnique key items) = sortUnique key items :=
  sortUnique_eq_self key _ (sortUnique_strict key items)

theorem sortUnique_isEmpty (key : α → K) (items : List α) :
    (sortUnique key items).isEmpty = items.isEmpty := by
  unfold sortUnique
  rw [Bool.eq_iff_iff, List.isEmpty_iff, List.isEmpty_iff, List.destutter_eq_nil]
  constructor
  · intro empty
    have perm := stableSort_perm key items
    rw [empty] at perm
    exact perm.nil_eq.symm
  · rintro rfl
    rfl

/-- Sorting what is sorted and already of the form the update gives. -/
theorem stableSort_map_stable (key : α → K) {update : α → α}
    (idempotent : ∀ item, update (update item) = update item)
    (items : List α) : stableSort key ((stableSort key (items.map update)).map update) =
      stableSort key (items.map update) := by
  have fixed : (stableSort key (items.map update)).map update = stableSort key (items.map update) := by
    have each : ∀ item ∈ stableSort key (items.map update), update item = item := by
      intro item member
      rw [mem_stableSort, List.mem_map] at member
      obtain ⟨source, -, rfl⟩ := member
      exact idempotent source
    rw [List.map_congr_left each, List.map_id']
  rw [fixed]
  exact stableSort_eq_self key _ (stableSort_sorted key _)

theorem checkAll_stableSort (key : α → K) (check : α → Status) (update : α → α) (items : List α) :
    checkAll check (stableSort key (items.map update)) = .ok () ↔ ∀ item ∈ items,
      check (update item) = .ok () := by
  rw [checkAll_eq_ok]
  constructor
  · intro each item member
    exact each _ ((mem_stableSort _ _ _).2 (List.mem_map_of_mem member))
  · intro each item member
    rw [mem_stableSort, List.mem_map] at member
    obtain ⟨source, listed, rfl⟩ := member
    exact each source listed

/-- An update that keeps the keys only permutes them. -/
theorem keys_stableSort (key : α → K) (update : α → α) (keeps : ∀ item, key (update item) = key item)
    (items : List α) : ((stableSort key (items.map update)).map key).Perm (items.map key) := by
  have perm := (stableSort_perm key (items.map update)).map key
  rw [List.map_map] at perm
  rwa [List.map_congr_left (fun item _ => show (key ∘ update) item = key item from keeps item)] at perm

end Sorting

theorem checkAll_sortUnique {K : Type} [LinearOrder K] (check : K → Status) (items : List K) :
    checkAll check (sortUnique id items) = .ok () ↔ checkAll check items = .ok () := by
  rw [checkAll_eq_ok, checkAll_eq_ok]
  simp only [mem_sortUnique_id]

/-! The canonical form is final. -/

theorem canonicalizeDemand_idem (demand : Demand) :
    canonicalizeDemand (canonicalizeDemand demand) = canonicalizeDemand demand := by
  unfold canonicalizeDemand
  simp only [sortUnique_sortUnique]

theorem canonicalizePath_idem (path : CandidatePath) :
    canonicalizePath (canonicalizePath path) = canonicalizePath path := by
  unfold canonicalizePath
  simp only [sortUnique_sortUnique]

theorem canonicalizeResource_idem (resource : FabricResource) :
    canonicalizeResource (canonicalizeResource resource) = canonicalizeResource resource := by
  unfold canonicalizeResource
  simp only [sortUnique_sortUnique]

theorem canonicalizeReservation_idem (reservation : Reservation) :
    canonicalizeReservation (canonicalizeReservation reservation) =
      canonicalizeReservation reservation := by
  unfold canonicalizeReservation
  simp only [sortUnique_sortUnique]

theorem canonicalize_idem (snapshot : FabricSnapshot) :
    canonicalize (canonicalize snapshot) = canonicalize snapshot := by
  unfold canonicalize
  simp only [stableSort_map_stable _ canonicalizeDemand_idem, stableSort_map_stable _ canonicalizePath_idem,
    stableSort_map_stable _ canonicalizeResource_idem, stableSort_map_stable _ canonicalizeReservation_idem,
    sortUnique_sortUnique]

/-! What validation accepts stays accepted. -/

theorem requireDistinct_iff {kind : IdKind} (ids : List (Id kind)) (detail : Text) :
    requireDistinct ids detail = .ok () ↔ ids.Nodup := by
  refine ⟨requireDistinct_nodup, fun nodup => ?_⟩
  unfold requireDistinct
  rw [require_eq_ok, Bool.not_eq_true']
  have sorted : ((stableSort id ids).map id).Nodup := by
    rw [List.map_id]
    exact (stableSort_perm id ids).nodup_iff.2 nodup
  exact adjacentFind_of_strict _ (pairwise_lt_of_le_of_nodup id _ (stableSort_sorted id ids) sorted)

section Validation

variable {snapshot : FabricSnapshot}

theorem resourceKeys_perm : ((canonicalize snapshot).capacity.resources.map FabricResource.id).Perm
    (snapshot.capacity.resources.map FabricResource.id) :=
  keys_stableSort FabricResource.id canonicalizeResource (fun _ => rfl) _

theorem reservationKeys_perm : ((canonicalize snapshot).reservations.reservations.map Reservation.id).Perm
    (snapshot.reservations.reservations.map Reservation.id) :=
  keys_stableSort Reservation.id canonicalizeReservation (fun _ => rfl) _

theorem demandKeys_perm :
    ((canonicalize snapshot).demands.map Demand.id).Perm (snapshot.demands.map Demand.id) :=
  keys_stableSort Demand.id canonicalizeDemand (fun _ => rfl) _

theorem pathKeys_perm : ((canonicalize snapshot).paths.map (fun path => path.id)).Perm
    (snapshot.paths.map (fun path => path.id)) :=
  keys_stableSort (fun path : CandidatePath => path.id) canonicalizePath (fun _ => rfl) _

theorem contains_of_perm {α : Type} [BEq α] [LawfulBEq α] {items others : List α} (perm : items.Perm others)
    (item : α) : items.contains item = others.contains item := by
  rw [Bool.eq_iff_iff, List.contains_iff_mem, List.contains_iff_mem]
  exact perm.mem_iff

theorem knownResource_canonicalize (resource : ResourceId) :
    knownResource (canonicalize snapshot) resource = knownResource snapshot resource :=
  contains_of_perm resourceKeys_perm resource

theorem validateHeader_canonicalize (valid : validateHeader snapshot = .ok ()) :
    validateHeader (canonicalize snapshot) = .ok () := by
  simp only [validateHeader, check_bind_eq_ok, require_eq_ok] at valid ⊢
  have demands : (canonicalize snapshot).demands.length = snapshot.demands.length :=
    (length_stableSort _ _).trans (List.length_map _)
  have paths : (canonicalize snapshot).paths.length = snapshot.paths.length :=
    (length_stableSort _ _).trans (List.length_map _)
  rw [demands, paths]
  exact valid

theorem validateResource_canonicalize {resource : FabricResource}
    (valid : validateResource resource = .ok ()) :
    validateResource (canonicalizeResource resource) = .ok () := by
  simp only [validateResource, check_bind_eq_ok, require_eq_ok, decide_eq_true_eq] at valid ⊢
  obtain ⟨named, numbered, sourced, usable, committed, few⟩ := valid
  exact ⟨named, numbered, sourced, usable, committed, (length_sortUnique_le id _).trans few⟩

theorem validateCapacity_canonicalize (valid : validateCapacity snapshot = .ok ()) :
    validateCapacity (canonicalize snapshot) = .ok () := by
  simp only [validateCapacity, check_bind_eq_ok, require_eq_ok, decide_eq_true_eq,
    requireDistinct_iff] at valid ⊢
  obtain ⟨named, sourced, epoch, few, each, distinct⟩ := valid
  refine ⟨named, sourced, epoch, ?_, ?_, ?_⟩
  · exact le_of_eq_of_le ((length_stableSort _ _).trans (List.length_map _)) few
  · refine (checkAll_stableSort FabricResource.id _ canonicalizeResource _).2 fun resource member => ?_
    exact validateResource_canonicalize ((checkAll_eq_ok _ _).1 each resource member)
  · exact resourceKeys_perm.nodup_iff.2 distinct

theorem validateReservation_canonicalize {reservation : Reservation}
    (valid : validateReservation snapshot reservation = .ok ()) :
    validateReservation (canonicalize snapshot) (canonicalizeReservation reservation) = .ok () := by
  simp only [validateReservation, check_bind_eq_ok, require_eq_ok] at valid ⊢
  obtain ⟨named, numbered, sourced, width, known⟩ := valid
  refine ⟨named, numbered, sourced, width, (checkAll_sortUnique _ _).2 ?_⟩
  simp only [knownResource_canonicalize]
  exact known

theorem validateReservations_canonicalize (valid : validateReservations snapshot = .ok ()) :
    validateReservations (canonicalize snapshot) = .ok () := by
  simp only [validateReservations, check_bind_eq_ok, require_eq_ok, decide_eq_true_eq, requireDistinct_iff]
    at valid ⊢
  obtain ⟨named, sourced, epoch, few, each, distinct⟩ := valid
  refine ⟨named, sourced, epoch, ?_, ?_, ?_⟩
  · exact le_of_eq_of_le ((length_stableSort _ _).trans (List.length_map _)) few
  · refine (checkAll_stableSort Reservation.id _ canonicalizeReservation _).2 fun reservation member => ?_
    exact validateReservation_canonicalize ((checkAll_eq_ok _ _).1 each reservation member)
  · exact reservationKeys_perm.nodup_iff.2 distinct

theorem validatePath_canonicalize {path : CandidatePath} (valid : validatePath snapshot path = .ok ()) :
    validatePath (canonicalize snapshot) (canonicalizePath path) = .ok () := by
  simp only [validatePath, check_bind_eq_ok, require_eq_ok, decide_eq_true_eq] at valid ⊢
  obtain ⟨named, numbered, authorised, own, listed, sourced, present, few, known, domains, rest⟩ := valid
  refine ⟨named, numbered, authorised, own, listed, sourced, ?_, ?_, ?_, ?_, rest⟩
  · change (!(sortUnique id path.resources).isEmpty) = true
    rw [sortUnique_isEmpty]
    exact present
  · exact (length_sortUnique_le id _).trans few
  · refine (checkAll_sortUnique _ _).2 ?_
    simp only [knownResource_canonicalize]
    exact known
  · exact (length_sortUnique_le id _).trans domains

theorem validatePaths_canonicalize (few : snapshot.paths.length ≤ Limits.maxTotalCandidatePaths)
    (valid : validatePaths snapshot = .ok ()) : validatePaths (canonicalize snapshot) = .ok () := by
  simp only [validatePaths, check_bind_eq_ok, requireDistinct_iff] at valid ⊢
  obtain ⟨each, distinct, -⟩ := valid
  refine ⟨?_, pathKeys_perm.nodup_iff.2 distinct, (checkAll_eq_ok _ _).2 fun entry member => ?_⟩
  · refine (checkAll_stableSort (fun path => path.id) _ canonicalizePath _).2 fun path member => ?_
    exact validatePath_canonicalize ((checkAll_eq_ok _ _).1 each path member)
  · -- One set cannot be counted more often than there are paths at all.
    have counted := pathsPerSet_le _ entry member
    have paths : (canonicalize snapshot).paths.length = snapshot.paths.length :=
      (length_stableSort _ _).trans (List.length_map _)
    have room : Limits.maxTotalCandidatePaths ≤ Limits.maxPathsPerDemand * Limits.maxDemands := by decide
    rw [require_eq_ok, decide_eq_true_eq]
    omega

theorem validateAffinity_canonicalize (demand : Demand) (relation : Text) (other : DemandId) :
    validateAffinity (canonicalize snapshot) (canonicalizeDemand demand) relation other =
      validateAffinity snapshot demand relation other := by
  unfold validateAffinity
  rw [contains_of_perm demandKeys_perm]
  rfl

theorem validateDemand_canonicalize {demand : Demand} (valid : validateDemand snapshot demand = .ok ()) :
    validateDemand (canonicalize snapshot) (canonicalizeDemand demand) = .ok () := by
  simp only [validateDemand, check_bind_eq_ok, require_eq_ok, Bool.and_eq_true,
    decide_eq_true_eq] at valid ⊢
  obtain ⟨named, numbered, sourced, listed, minimum, desired, maximum, ordered, above,
    latency, cost, distinct,
    few, together, apart, bindings, labels⟩ := valid
  refine ⟨named, numbered, sourced, listed, minimum, desired, maximum, ordered, above,
    latency, cost, distinct,
    ⟨⟨⟨?_, ?_⟩, ?_⟩, ?_⟩, ?_, ?_, ?_, ?_⟩
  · exact (length_sortUnique_le id _).trans few.1.1.1
  · exact (length_sortUnique_le id _).trans few.1.1.2
  · exact (length_sortUnique_le id _).trans few.1.2
  · exact (length_sortUnique_le id _).trans few.2
  · refine (checkAll_sortUnique _ _).2 ?_
    rw [checkAll_eq_ok] at together ⊢
    intro other member
    rw [validateAffinity_canonicalize]
    exact together other member
  · refine (checkAll_sortUnique _ _).2 ?_
    rw [checkAll_eq_ok] at apart ⊢
    intro other member
    rw [validateAffinity_canonicalize]
    exact apart other member
  · refine (checkAll_sortUnique _ _).2 ?_
    simp only [contains_of_perm reservationKeys_perm]
    exact bindings
  · rw [checkAll_eq_ok] at labels ⊢
    exact fun label member => labels label (sortUnique_subset Prod.fst _ member)

theorem validateDemands_canonicalize (valid : validateDemands snapshot = .ok ()) :
    validateDemands (canonicalize snapshot) = .ok () := by
  simp only [validateDemands, check_bind_eq_ok, requireDistinct_iff] at valid ⊢
  refine ⟨?_, demandKeys_perm.nodup_iff.2 valid.2⟩
  refine (checkAll_stableSort Demand.id _ canonicalizeDemand _).2 fun demand member => ?_
  exact validateDemand_canonicalize ((checkAll_eq_ok _ _).1 valid.1 demand member)

theorem validateStructure_canonicalize (valid : validateStructure snapshot = .ok ()) :
    validateStructure (canonicalize snapshot) = .ok () := by
  rw [validateStructure_eq_ok] at valid ⊢
  obtain ⟨header, capacity, reservations, policy, objective, paths, demands⟩ := valid
  have few : snapshot.paths.length ≤ Limits.maxTotalCandidatePaths := by
    simp only [validateHeader, check_bind_eq_ok, require_eq_ok, decide_eq_true_eq] at header
    exact header.2.2.2.2.2.2.2.2
  exact ⟨validateHeader_canonicalize header, validateCapacity_canonicalize capacity,
    validateReservations_canonicalize reservations, policy, objective, validatePaths_canonicalize few paths,
    validateDemands_canonicalize demands⟩

/-- What is validated can be planned on in canonical form. -/
theorem accepted_canonicalize (valid : validateStructure snapshot = .ok ()) :
    Accepted (canonicalize snapshot) :=
  ⟨⟨snapshot, rfl⟩, validateStructure_canonicalize valid⟩

end Validation

end TrafficFabric
