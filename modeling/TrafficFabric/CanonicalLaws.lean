import TrafficFabric.CanonicalForm
import TrafficFabric.Eligibility

set_option autoImplicit false

/- What canonicalization does to each list of a snapshot, and what the binary searches of the derivation may
rely on after it. -/
namespace TrafficFabric

/-! One list. -/

section Lists

variable {K α : Type} [LinearOrder K]

/-- Strictly increasing in the key, with the keys of the list it was made from. -/
structure KeyedBy (key : α → K) (raw items : List α) : Prop where
  strict : items.Pairwise fun first second => key first < key second
  keys : ∀ wanted, wanted ∈ items.map key ↔ wanted ∈ raw.map key

/-- A sorted permutation of the updated elements. -/
structure SortedForm (key : α → K) (update : α → α) (raw items : List α) : Prop where
  perm : items.Perm (raw.map update)
  sorted : items.Pairwise fun first second => key first ≤ key second

theorem keyedBy_sortUnique (key : α → K) (items : List α) : KeyedBy key items (sortUnique key items) :=
  ⟨sortUnique_strict key items, keys_sortUnique key items⟩

theorem sortedForm_stableSort (key : α → K) (update : α → α) (items : List α) :
    SortedForm key update items (stableSort key (items.map update)) :=
  ⟨stableSort_perm key _, stableSort_sorted key _⟩

end Lists

/-! The lists of each element. -/

structure DemandLists (raw demand : Demand) : Prop where
  allowedPaths : KeyedBy id raw.allowedPaths demand.allowedPaths
  forbiddenPaths : KeyedBy id raw.forbiddenPaths demand.forbiddenPaths
  affinity : KeyedBy id raw.affinity demand.affinity
  antiAffinity : KeyedBy id raw.antiAffinity demand.antiAffinity
  requiredFailureDomains : KeyedBy id raw.requiredFailureDomains demand.requiredFailureDomains
  reservationBindings : KeyedBy id raw.reservationBindings demand.reservationBindings
  labels : KeyedBy Prod.fst raw.labels demand.labels

structure PathLists (raw path : CandidatePath) : Prop where
  resources : KeyedBy id raw.resources path.resources
  failureDomains : KeyedBy id raw.failureDomains path.failureDomains
  policyLabels : KeyedBy id raw.policyLabels path.policyLabels

structure ResourceLists (raw resource : FabricResource) : Prop where
  failureDomains : KeyedBy id raw.failureDomains resource.failureDomains

structure ReservationLists (raw reservation : Reservation) : Prop where
  paths : KeyedBy id raw.paths reservation.paths
  resources : KeyedBy id raw.resources reservation.resources

structure PolicyLists (raw policy : Policy) : Prop where
  allowedTenants : KeyedBy id raw.allowedTenants policy.allowedTenants
  allowedServiceClasses : KeyedBy id raw.allowedServiceClasses policy.allowedServiceClasses

theorem canonicalizeDemand_lists (demand : Demand) : DemandLists demand (canonicalizeDemand demand) := by
  constructor <;> exact keyedBy_sortUnique _ _

theorem canonicalizePath_lists (path : CandidatePath) : PathLists path (canonicalizePath path) := by
  constructor <;> exact keyedBy_sortUnique _ _

theorem canonicalizeResource_lists (resource : FabricResource) :
    ResourceLists resource (canonicalizeResource resource) := ⟨keyedBy_sortUnique _ _⟩

theorem canonicalizeReservation_lists (reservation : Reservation) :
    ReservationLists reservation (canonicalizeReservation reservation) := by
  constructor <;> exact keyedBy_sortUnique _ _

/-! The snapshot. -/

/-- Every collection sorted, every list of its elements sorted and without repeated keys, and the rest of
the snapshot left as it was. -/
structure CanonicalOf (raw result : FabricSnapshot) : Prop where
  demands : SortedForm Demand.id canonicalizeDemand raw.demands result.demands
  paths : SortedForm (fun path => path.id) canonicalizePath raw.paths result.paths
  resources : SortedForm FabricResource.id canonicalizeResource raw.capacity.resources
    result.capacity.resources
  reservations : SortedForm Reservation.id canonicalizeReservation raw.reservations.reservations
    result.reservations.reservations
  demandLists : ∀ demand ∈ raw.demands, DemandLists demand (canonicalizeDemand demand)
  pathLists : ∀ path ∈ raw.paths, PathLists path (canonicalizePath path)
  resourceLists : ∀ resource ∈ raw.capacity.resources, ResourceLists resource
    (canonicalizeResource resource)
  reservationLists : ∀ reservation ∈ raw.reservations.reservations,
    ReservationLists reservation (canonicalizeReservation reservation)
  policyLists : PolicyLists raw.policy result.policy
  frame : result = { raw with
    demands := result.demands
    paths := result.paths
    capacity := { raw.capacity with resources := result.capacity.resources }
    reservations := { raw.reservations with reservations := result.reservations.reservations }
    policy := { raw.policy with
      allowedTenants := result.policy.allowedTenants
      allowedServiceClasses := result.policy.allowedServiceClasses } }

theorem canonicalize_canonicalOf (snapshot : FabricSnapshot) :
    CanonicalOf snapshot (canonicalize snapshot) where
  demands := sortedForm_stableSort _ _ _
  paths := sortedForm_stableSort _ _ _
  resources := sortedForm_stableSort _ _ _
  reservations := sortedForm_stableSort _ _ _
  demandLists demand _ := canonicalizeDemand_lists demand
  pathLists path _ := canonicalizePath_lists path
  resourceLists resource _ := canonicalizeResource_lists resource
  reservationLists reservation _ := canonicalizeReservation_lists reservation
  policyLists := ⟨keyedBy_sortUnique _ _, keyedBy_sortUnique _ _⟩
  frame := rfl

/-- The lists the derivation searches. -/
structure SearchDecides (snapshot : FabricSnapshot) : Prop where
  tenants : ∀ tenant, containsId snapshot.policy.allowedTenants tenant = true ↔
    tenant ∈ snapshot.policy.allowedTenants
  serviceClasses : ∀ serviceClass, containsId snapshot.policy.allowedServiceClasses serviceClass = true ↔
    serviceClass ∈ snapshot.policy.allowedServiceClasses
  allowed : ∀ demand ∈ snapshot.demands, ∀ path, containsId demand.allowedPaths path = true ↔
    path ∈ demand.allowedPaths
  forbidden : ∀ demand ∈ snapshot.demands, ∀ path, containsId demand.forbiddenPaths path = true ↔
    path ∈ demand.forbiddenPaths
  domains : ∀ path ∈ snapshot.paths, ∀ domain, containsId path.failureDomains domain = true ↔
    domain ∈ path.failureDomains

/-- An element of a canonical collection is a canonical element. -/
theorem SortedForm.exists_raw {K α : Type} [LinearOrder K] {key : α → K} {update : α → α}
    {raw items : List α}
    (form : SortedForm key update raw items) {item : α} (member : item ∈ items) :
    ∃ source ∈ raw, update source = item :=
  List.mem_map.1 (form.perm.mem_iff.1 member)

theorem CanonicalOf.searchDecides {raw result : FabricSnapshot} (canonical : CanonicalOf raw result) :
    SearchDecides result where
  tenants := containsId_iff canonical.policyLists.allowedTenants.strict
  serviceClasses := containsId_iff canonical.policyLists.allowedServiceClasses.strict
  allowed demand member := by
    obtain ⟨source, listed, rfl⟩ := canonical.demands.exists_raw member
    exact containsId_iff (canonical.demandLists source listed).allowedPaths.strict
  forbidden demand member := by
    obtain ⟨source, listed, rfl⟩ := canonical.demands.exists_raw member
    exact containsId_iff (canonical.demandLists source listed).forbiddenPaths.strict
  domains path member := by
    obtain ⟨source, listed, rfl⟩ := canonical.paths.exists_raw member
    exact containsId_iff (canonical.pathLists source listed).failureDomains.strict

/-- Canonicalization is final, sorts what it should and nothing else, keeps what validation accepts, and
makes binary search a test of membership. -/
theorem canonicalize_laws (snapshot : FabricSnapshot) :
    canonicalize (canonicalize snapshot) = canonicalize snapshot ∧
    CanonicalOf snapshot (canonicalize snapshot) ∧
    (validateStructure snapshot = .ok () → validateStructure (canonicalize snapshot) = .ok ()) ∧
    SearchDecides (canonicalize snapshot) :=
  ⟨canonicalize_idem snapshot, canonicalize_canonicalOf snapshot, validateStructure_canonicalize,
    (canonicalize_canonicalOf snapshot).searchDecides⟩

/-- The link with lists in no order and with repetitions. -/
def tangledFabric : FabricSnapshot :=
  { linkFabric with
    demands := [{ linkDemand with
      allowedPaths := [named "path-1", named "path-0", named "path-1"]
      labels := [(text "tier", text "edge"), (text "site", text "a"), (text "tier", text "core")] }]
    policy := { linkFabric.policy with allowedTenants := [named "tenant-2", named "tenant-1",
      named "tenant-2"] } }

theorem canonicalize_laws_tangled : canonicalize tangledFabric ≠ tangledFabric ∧
    canonicalize (canonicalize tangledFabric) = canonicalize tangledFabric ∧
    CanonicalOf tangledFabric (canonicalize tangledFabric) ∧
    validateStructure (canonicalize tangledFabric) = .ok () ∧
    SearchDecides (canonicalize tangledFabric) := by
  obtain ⟨final, sorted, keeps, decides⟩ := canonicalize_laws tangledFabric
  exact ⟨by decide +kernel, final, sorted, keeps (by decide +kernel), decides⟩

end TrafficFabric
