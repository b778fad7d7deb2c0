import TrafficFabric.AuthorityBinding
import TrafficFabric.Lib.SortOrder

set_option autoImplicit false

/- The same facts in another order. Canonicalization makes one snapshot of all of them, up to
the labels of a demand that lists one key with several values: the first value is kept. -/
namespace TrafficFabric

/-! Reorderings of a snapshot. -/

/-- The demand without its lists. -/
def Demand.unlisted (demand : Demand) : Demand :=
  { demand with
    allowedPaths := []
    forbiddenPaths := []
    affinity := []
    antiAffinity := []
    requiredFailureDomains := []
    reservationBindings := []
    labels := [] }

structure Demand.Reordered (first second : Demand) : Prop where
  allowedPaths : first.allowedPaths.Perm second.allowedPaths
  forbiddenPaths : first.forbiddenPaths.Perm second.forbiddenPaths
  affinity : first.affinity.Perm second.affinity
  antiAffinity : first.antiAffinity.Perm second.antiAffinity
  requiredFailureDomains : first.requiredFailureDomains.Perm second.requiredFailureDomains
  reservationBindings : first.reservationBindings.Perm second.reservationBindings
  labels : first.labels.Perm second.labels
  rest : first.unlisted = second.unlisted

def CandidatePath.unlisted (path : CandidatePath) : CandidatePath :=
  { path with
    resources := []
    failureDomains := []
    policyLabels := [] }

structure CandidatePath.Reordered (first second : CandidatePath) : Prop where
  resources : first.resources.Perm second.resources
  failureDomains : first.failureDomains.Perm second.failureDomains
  policyLabels : first.policyLabels.Perm second.policyLabels
  rest : first.unlisted = second.unlisted

structure FabricResource.Reordered (first second : FabricResource) : Prop where
  failureDomains : first.failureDomains.Perm second.failureDomains
  rest : { first with failureDomains := [] } = { second with failureDomains := [] }

structure Reservation.Reordered (first second : Reservation) : Prop where
  paths : first.paths.Perm second.paths
  resources : first.resources.Perm second.resources
  rest : { first with paths := [], resources := [] } = { second with paths := [], resources := [] }

/-- The snapshot without the collections whose order has no meaning. -/
def FabricSnapshot.unlisted (snapshot : FabricSnapshot) : FabricSnapshot :=
  { snapshot with
    demands := []
    paths := []
    capacity := { snapshot.capacity with resources := [] }
    reservations := { snapshot.reservations with reservations := [] }
    policy := { snapshot.policy with allowedTenants := [], allowedServiceClasses := [] } }

/-- The same facts, listed in another order. Objective terms keep theirs. -/
structure FabricSnapshot.Reordered (first second : FabricSnapshot) : Prop where
  demands : Rearranged Demand.Reordered first.demands second.demands
  paths : Rearranged CandidatePath.Reordered first.paths second.paths
  resources : Rearranged FabricResource.Reordered first.capacity.resources second.capacity.resources
  reservations : Rearranged Reservation.Reordered first.reservations.reservations
    second.reservations.reservations
  tenants : first.policy.allowedTenants.Perm second.policy.allowedTenants
  serviceClasses : first.policy.allowedServiceClasses.Perm second.policy.allowedServiceClasses
  rest : first.unlisted = second.unlisted

/-! What canonicalization makes of them. -/

def Demand.unlabelled (demand : Demand) : Demand := { demand with labels := [] }

def FabricSnapshot.unlabelled (snapshot : FabricSnapshot) : FabricSnapshot :=
  { snapshot with demands := snapshot.demands.map Demand.unlabelled }

/-- Canonicalization replaces the lists of a demand and keeps the rest. -/
theorem canonicalizeDemand_eq (demand : Demand) : canonicalizeDemand demand =
    { demand.unlisted with
      allowedPaths := sortUnique id demand.allowedPaths
      forbiddenPaths := sortUnique id demand.forbiddenPaths
      affinity := sortUnique id demand.affinity
      antiAffinity := sortUnique id demand.antiAffinity
      requiredFailureDomains := sortUnique id demand.requiredFailureDomains
      reservationBindings := sortUnique id demand.reservationBindings
      labels := sortUnique Prod.fst demand.labels } := rfl

theorem Demand.Reordered.canonicalize_unlabelled {first second : Demand} (same : first.Reordered second) :
    (canonicalizeDemand first).unlabelled = (canonicalizeDemand second).unlabelled := by
  rw [canonicalizeDemand_eq, canonicalizeDemand_eq, same.rest, sortUnique_id_eq_of_perm same.allowedPaths,
    sortUnique_id_eq_of_perm same.forbiddenPaths, sortUnique_id_eq_of_perm same.affinity,
    sortUnique_id_eq_of_perm same.antiAffinity, sortUnique_id_eq_of_perm same.requiredFailureDomains,
    sortUnique_id_eq_of_perm same.reservationBindings]
  rfl

theorem Demand.Reordered.canonicalize_eq {first second : Demand} (same : first.Reordered second)
    (one : OnePerKey Prod.fst first.labels) : canonicalizeDemand first = canonicalizeDemand second := by
  rw [canonicalizeDemand_eq, canonicalizeDemand_eq, same.rest, sortUnique_id_eq_of_perm same.allowedPaths,
    sortUnique_id_eq_of_perm same.forbiddenPaths, sortUnique_id_eq_of_perm same.affinity,
    sortUnique_id_eq_of_perm same.antiAffinity, sortUnique_id_eq_of_perm same.requiredFailureDomains,
    sortUnique_id_eq_of_perm same.reservationBindings, sortUnique_eq_of_perm one same.labels]

theorem canonicalizePath_eq (path : CandidatePath) : canonicalizePath path =
    { path.unlisted with
      resources := sortUnique id path.resources
      failureDomains := sortUnique id path.failureDomains
      policyLabels := sortUnique id path.policyLabels } := rfl

theorem CandidatePath.Reordered.canonicalize_eq {first second : CandidatePath}
    (same : first.Reordered second) :
    canonicalizePath first = canonicalizePath second := by
  rw [canonicalizePath_eq, canonicalizePath_eq, same.rest, sortUnique_id_eq_of_perm same.resources,
    sortUnique_id_eq_of_perm same.failureDomains, sortUnique_id_eq_of_perm same.policyLabels]

theorem canonicalizeResource_eq (resource : FabricResource) : canonicalizeResource resource =
    { { resource with failureDomains := [] } with
      failureDomains := sortUnique id resource.failureDomains } := rfl

theorem FabricResource.Reordered.canonicalize_eq {first second : FabricResource}
    (same : first.Reordered second) : canonicalizeResource first = canonicalizeResource second := by
  rw [canonicalizeResource_eq, canonicalizeResource_eq, same.rest,
    sortUnique_id_eq_of_perm same.failureDomains]

theorem canonicalizeReservation_eq (reservation : Reservation) : canonicalizeReservation reservation =
    { { reservation with paths := [], resources := [] } with
      paths := sortUnique id reservation.paths
      resources := sortUnique id reservation.resources } := rfl

theorem Reservation.Reordered.canonicalize_eq {first second : Reservation} (same : first.Reordered second) :
    canonicalizeReservation first = canonicalizeReservation second := by
  rw [canonicalizeReservation_eq, canonicalizeReservation_eq, same.rest,
    sortUnique_id_eq_of_perm same.paths, sortUnique_id_eq_of_perm same.resources]

/-- A snapshot put together from its collections and the rest. -/
def FabricSnapshot.listing (frame : FabricSnapshot) (demands : List Demand) (paths : List CandidatePath)
    (resources : List FabricResource) (reservations : List Reservation) (tenants : List TenantId)
    (serviceClasses : List ServiceClassId) : FabricSnapshot :=
  { frame with
    demands := demands
    paths := paths
    capacity := { frame.capacity with resources := resources }
    reservations := { frame.reservations with reservations := reservations }
    policy := { frame.policy with
      allowedTenants := tenants
      allowedServiceClasses := serviceClasses } }

theorem canonicalize_eq_listing (snapshot : FabricSnapshot) : canonicalize snapshot =
    snapshot.unlisted.listing (stableSort Demand.id (snapshot.demands.map canonicalizeDemand))
      (canonicalize snapshot).paths (canonicalize snapshot).capacity.resources
      (canonicalize snapshot).reservations.reservations (sortUnique id snapshot.policy.allowedTenants)
      (sortUnique id snapshot.policy.allowedServiceClasses) := rfl

theorem nodup_of_stableSort {α K : Type} [LinearOrder K] {key : α → K} {items : List α}
    (nodup : ((stableSort key items).map key).Nodup) : (items.map key).Nodup :=
  ((stableSort_perm key items).map key).nodup_iff.1 nodup

namespace FabricSnapshot.Reordered

variable {first second : FabricSnapshot} (same : first.Reordered second)
  (accepted : Accepted (canonicalize first))

include same accepted

theorem paths_eq : (canonicalize first).paths = (canonicalize second).paths :=
  same.paths.stableSort_eq (fun _ _ _ pair => pair.canonicalize_eq)
    (nodup_of_stableSort accepted.path_checks.2)

theorem resources_eq : (canonicalize first).capacity.resources = (canonicalize second).capacity.resources :=
  same.resources.stableSort_eq (fun _ _ _ pair => pair.canonicalize_eq)
    (nodup_of_stableSort accepted.capacity_checks.2.2)

theorem reservations_eq : (canonicalize first).reservations.reservations =
    (canonicalize second).reservations.reservations :=
  same.reservations.stableSort_eq (fun _ _ _ pair => pair.canonicalize_eq)
    (nodup_of_stableSort accepted.reservation_checks.2.2)

/-- The demands are put in one order, though their labels may differ. -/
theorem demands_eq : (canonicalize first).demands.map Demand.unlabelled =
    (canonicalize second).demands.map Demand.unlabelled := by
  have nodup := nodup_of_stableSort accepted.demand_checks.2
  have sorted : ∀ demands : List Demand,
      (stableSort Demand.id (demands.map canonicalizeDemand)).map Demand.unlabelled =
        stableSort Demand.id (demands.map fun demand => (canonicalizeDemand demand).unlabelled) := by
    intro demands
    rw [@map_stableSort _ _ _ _ Demand.id Demand.id Demand.unlabelled _ fun _ => rfl, List.map_map]
    rfl
  change (stableSort Demand.id _).map _ = (stableSort Demand.id _).map _
  rw [sorted, sorted]
  apply same.demands.stableSort_eq fun _ _ _ pair => pair.canonicalize_unlabelled
  rw [List.map_map] at nodup ⊢
  exact nodup

theorem canonicalize_unlabelled : (canonicalize first).unlabelled = (canonicalize second).unlabelled := by
  have spelled : ∀ snapshot : FabricSnapshot, (canonicalize snapshot).unlabelled =
      snapshot.unlisted.listing ((canonicalize snapshot).demands.map Demand.unlabelled)
        (canonicalize snapshot).paths (canonicalize snapshot).capacity.resources
        (canonicalize snapshot).reservations.reservations (sortUnique id snapshot.policy.allowedTenants)
        (sortUnique id snapshot.policy.allowedServiceClasses) := fun _ => rfl
  rw [spelled, spelled, same.rest, same.demands_eq accepted, same.paths_eq accepted,
    same.resources_eq accepted, same.reservations_eq accepted, sortUnique_id_eq_of_perm same.tenants,
    sortUnique_id_eq_of_perm same.serviceClasses]

/-- Without a key that has several values the canonical snapshots are one. -/
theorem canonicalize_eq (one : ∀ demand ∈ first.demands, OnePerKey Prod.fst demand.labels) :
    canonicalize first = canonicalize second := by
  have demands : stableSort Demand.id (first.demands.map canonicalizeDemand) =
      stableSort Demand.id (second.demands.map canonicalizeDemand) :=
    same.demands.stableSort_eq (fun demand member _ pair => pair.canonicalize_eq (one demand member))
      (nodup_of_stableSort accepted.demand_checks.2)
  rw [canonicalize_eq_listing first, canonicalize_eq_listing second, same.rest, demands,
    same.paths_eq accepted, same.resources_eq accepted, same.reservations_eq accepted,
    sortUnique_id_eq_of_perm same.tenants, sortUnique_id_eq_of_perm same.serviceClasses]

end FabricSnapshot.Reordered

theorem Demand.Reordered.refl (demand : Demand) : demand.Reordered demand :=
  ⟨.refl _, .refl _, .refl _, .refl _, .refl _, .refl _, .refl _, rfl⟩

theorem Rearranged.of_forall {α : Type} {related : α → α → Prop} {items others : List α}
    (pairs : List.Forall₂ related items others) : Rearranged related items others :=
  ⟨items, .refl _, pairs⟩

/-- Other demands for the same fabric. -/
theorem reordered_demands {snapshot : FabricSnapshot} {demands : List Demand}
    (pairs : List.Forall₂ Demand.Reordered snapshot.demands demands) :
    snapshot.Reordered { snapshot with demands := demands } := by
  have paths : List.Forall₂ CandidatePath.Reordered snapshot.paths snapshot.paths :=
    List.forall₂_same.2 fun _ _ => ⟨.refl _, .refl _, .refl _, rfl⟩
  have resources : List.Forall₂ FabricResource.Reordered snapshot.capacity.resources
      snapshot.capacity.resources := List.forall₂_same.2 fun _ _ => ⟨.refl _, rfl⟩
  have reservations : List.Forall₂ Reservation.Reordered snapshot.reservations.reservations
      snapshot.reservations.reservations := List.forall₂_same.2 fun _ _ => ⟨.refl _, .refl _, rfl⟩
  exact ⟨.of_forall pairs, .of_forall paths, .of_forall resources, .of_forall reservations,
    .refl _, .refl _, rfl⟩

/-! Labels take no part in planning. -/

namespace FabricSnapshot

variable (snapshot : FabricSnapshot)

theorem owned_unlabelled : owned snapshot.unlabelled = owned snapshot := by
  funext reservation
  unfold owned FabricSnapshot.unlabelled
  rw [List.map_map]
  rfl

theorem bindingOwner_unlabelled :
    bindingOwner snapshot.unlabelled.demands = bindingOwner snapshot.demands := by
  unfold bindingOwner FabricSnapshot.unlabelled
  rw [List.foldl_map]
  rfl

theorem startAccounting_unlabelled : startAccounting snapshot.unlabelled = startAccounting snapshot := by
  have obligations : zeroObligations snapshot.unlabelled.demands = zeroObligations snapshot.demands := by
    unfold zeroObligations FabricSnapshot.unlabelled
    rw [List.foldl_map]
    rfl
  unfold startAccounting
  rw [obligations]
  rfl

theorem accountReservation_unlabelled :
    accountReservation snapshot.unlabelled = accountReservation snapshot := by
  funext accounting reservation
  have charged : chargedTo snapshot.unlabelled reservation = chargedTo snapshot reservation := by
    unfold chargedTo
    rw [owned_unlabelled, bindingOwner_unlabelled]
  have displaced : displaceable snapshot.unlabelled reservation = displaceable snapshot reservation := by
    unfold displaceable
    rw [owned_unlabelled, bindingOwner_unlabelled]
    rfl
  unfold accountReservation
  rw [charged, displaced]
  rfl

theorem accountReservations_unlabelled (reservations : List Reservation) (accounting : Accounting) :
    accountReservations snapshot.unlabelled accounting reservations =
      accountReservations snapshot accounting reservations := by
  induction reservations generalizing accounting with
  | nil => rfl
  | cons reservation rest ih => simp only [accountReservations, accountReservation_unlabelled, ih]

theorem derive_unlabelled : derive snapshot.unlabelled = derive snapshot := by
  have demands : ∀ obligation,
      snapshot.unlabelled.demands.map
        (deriveDemand snapshot.unlabelled (planningPaths snapshot.unlabelled) obligation) =
        snapshot.demands.map (deriveDemand snapshot (planningPaths snapshot) obligation) := by
    intro obligation
    unfold FabricSnapshot.unlabelled
    rw [List.map_map]
    rfl
  have exclusions : snapshot.unlabelled.demands.flatMap (demandExclusions snapshot.unlabelled) =
      snapshot.demands.flatMap (demandExclusions snapshot) := by
    unfold FabricSnapshot.unlabelled
    rw [List.flatMap_map]
    rfl
  have active : (snapshot.unlabelled.demands.any fun demand =>
        demand.effective.covers snapshot.unlabelled.evaluationTick) =
      snapshot.demands.any fun demand => demand.effective.covers snapshot.evaluationTick := by
    unfold FabricSnapshot.unlabelled
    rw [List.any_map]
    rfl
  unfold derive
  rw [accountReservations_unlabelled, startAccounting_unlabelled, exclusions, active]
  simp only [demands]
  rfl

end FabricSnapshot

theorem sameFacts_of_unlabelled {first second : FabricSnapshot}
    (same : first.unlabelled = second.unlabelled) :
    SameFacts first second := by
  have demands := congrArg FabricSnapshot.demands same
  have paths := congrArg (fun snapshot => snapshot.paths.map CandidatePath.written) same
  have resources := congrArg (fun snapshot => snapshot.capacity.resources.map FabricResource.written) same
  have reservations :=
    congrArg (fun snapshot => snapshot.reservations.reservations.map Reservation.written) same
  have policy := congrArg (fun snapshot => snapshot.policy.written) same
  have objective := congrArg (fun snapshot => snapshot.objective.written) same
  have pathAuthority := congrArg FabricSnapshot.pathAuthorityGeneration same
  exact
    { pathAuthority := pathAuthority
      demands := map_eq_of_erased demands (fun _ => rfl) (fun _ _ => rfl)
      paths := paths
      resources := resources
      reservations := reservations
      policy := policy
      objective := objective }

theorem solve_of_unlabelled {first second : FabricSnapshot} (same : first.unlabelled = second.unlabelled)
    (options : SolveOptions) : solve first options = solve second options := by
  have derives : derive first = derive second := by
    rw [← first.derive_unlabelled, same, second.derive_unlabelled]
  exact (sameFacts_of_unlabelled same).solve_eq derives options

/-- The order in which the facts are listed makes no difference to the plan. -/
theorem solve_unordered {snapshot other : FabricSnapshot} (accepted : Accepted (canonicalize snapshot))
    (same : snapshot.Reordered other) (options : SolveOptions) :
    solve (canonicalize snapshot) options = solve (canonicalize other) options :=
  solve_of_unlabelled (same.canonicalize_unlabelled accepted) options

/-- The link with labels on its demand. -/
def labelFabric (labels : List (Text × Text)) : FabricSnapshot :=
  { linkFabric with demands := [{ linkDemand with labels := labels }] }

theorem labelFabric_reordered (first second : Text × Text) :
    (labelFabric [first, second]).Reordered (labelFabric [second, first]) := by
  apply reordered_demands
  exact .cons { Demand.Reordered.refl _ with labels := .swap _ _ _ } .nil

theorem solve_unordered_labelFabric :
    solve (canonicalize (labelFabric [(text "k", text "a"), (text "k", text "b")])) {} =
      solve (canonicalize (labelFabric [(text "k", text "b"), (text "k", text "a")])) {} :=
  solve_unordered (accepted_of_checks _ (by decide +kernel) (by decide +kernel))
    (labelFabric_reordered _ _) {}

end TrafficFabric
