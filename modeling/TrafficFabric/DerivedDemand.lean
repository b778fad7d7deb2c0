import TrafficFabric.DerivedAccounting

set_option autoImplicit false

/- What the published derivation says about one demand and one resource. -/
namespace TrafficFabric

/-- The obligation the demand carries, clamped to the machine type. -/
def obligationOf (snapshot : FabricSnapshot) (demand : DemandId) : Int :=
  min int64Max (obligationTotal snapshot demand)

theorem derivedDemand_shape (snapshot : FabricSnapshot) (demand : Demand) :
    ∃ eligible excluded notes, derivedDemand snapshot demand =
      { demandBasics snapshot
          (OrdMap.empty.insert demand.id (obligationOf snapshot demand.id)) demand with
        eligiblePaths := eligible
        excludedPaths := excluded
        notes := notes } := by
  refine ⟨(derivedDemand snapshot demand).eligiblePaths,
    (derivedDemand snapshot demand).excludedPaths, (derivedDemand snapshot demand).notes, ?_⟩
  unfold derivedDemand deriveDemand obligationOf
  by_cases active : demand.effective.covers snapshot.evaluationTick = true
  · simp [demandBasics, active]
  · simp [demandBasics, active]

section Projections

variable (snapshot : FabricSnapshot) (demand : Demand)

@[simp] theorem derivedDemand_demand : (derivedDemand snapshot demand).demand = demand.id := by
  obtain ⟨_, _, _, shape⟩ := derivedDemand_shape snapshot demand
  rw [shape]
  rfl

@[simp] theorem derivedDemand_generation :
    (derivedDemand snapshot demand).generation = demand.generation := by
  obtain ⟨_, _, _, shape⟩ := derivedDemand_shape snapshot demand
  rw [shape]
  rfl

@[simp] theorem derivedDemand_maximum :
    (derivedDemand snapshot demand).maximum = demand.maximumBandwidth := by
  obtain ⟨_, _, _, shape⟩ := derivedDemand_shape snapshot demand
  rw [shape]
  rfl

@[simp] theorem derivedDemand_active :
    (derivedDemand snapshot demand).active = demand.effective.covers snapshot.evaluationTick := by
  obtain ⟨_, _, _, shape⟩ := derivedDemand_shape snapshot demand
  rw [shape]
  rfl

@[simp] theorem derivedDemand_reservationObligation :
    (derivedDemand snapshot demand).reservationObligation = obligationOf snapshot demand.id := by
  obtain ⟨_, _, _, shape⟩ := derivedDemand_shape snapshot demand
  rw [shape]
  simp [demandBasics]

@[simp] theorem derivedDemand_floor : (derivedDemand snapshot demand).floor =
    max demand.minimumBandwidth (obligationOf snapshot demand.id) := by
  obtain ⟨_, _, _, shape⟩ := derivedDemand_shape snapshot demand
  rw [shape]
  simp [demandBasics]

end Projections

theorem derivedDemand_inactive {snapshot : FabricSnapshot} {demand : Demand}
    (inactive : demand.effective.covers snapshot.evaluationTick = false) :
    (derivedDemand snapshot demand).eligiblePaths = [] ∧
      (derivedDemand snapshot demand).notes = [] := by
  simp [derivedDemand, deriveDemand, demandBasics, inactive]

theorem derivedDemand_eligiblePaths {snapshot : FabricSnapshot} {demand : Demand}
    (active : demand.effective.covers snapshot.evaluationTick = true) :
    (derivedDemand snapshot demand).eligiblePaths =
      ((eligibleSorted demand (planningPaths snapshot)).take
        (pathLimit snapshot.policy (eligibleSorted demand (planningPaths snapshot)).length)).map
          PathFacts.id := by
  simp [derivedDemand, deriveDemand, demandBasics, active]

/-- An eligible path is a candidate of the snapshot that breaks no eligibility rule. -/
theorem derivedDemand_eligible {snapshot : FabricSnapshot} {demand : Demand} {path : PathId}
    (member : path ∈ (derivedDemand snapshot demand).eligiblePaths) :
    demand.effective.covers snapshot.evaluationTick = true ∧
      ∃ candidate ∈ planningPaths snapshot, candidate.id = path ∧
        exclusionOf demand candidate = none := by
  by_cases active : demand.effective.covers snapshot.evaluationTick = true
  · refine ⟨active, ?_⟩
    rw [derivedDemand_eligiblePaths active, List.mem_map] at member
    obtain ⟨candidate, taken, same⟩ := member
    have sorted := List.mem_of_mem_take taken
    rw [eligibleSorted, mem_stableSort, List.mem_filter] at sorted
    exact ⟨candidate, sorted.1, same, by simpa using sorted.2⟩
  · have inactive : demand.effective.covers snapshot.evaluationTick = false := by simpa using active
    rw [(derivedDemand_inactive inactive).1] at member
    cases member

theorem planningPaths_ids (snapshot : FabricSnapshot) :
    (planningPaths snapshot).map PathFacts.id = snapshot.paths.map (fun path => path.id) := by
  simp [planningPaths, Function.comp_def]

theorem planningPaths_nodup {snapshot : FabricSnapshot} (accepted : Accepted snapshot) :
    ((planningPaths snapshot).map PathFacts.id).Nodup := by
  rw [planningPaths_ids]
  exact accepted.path_checks.2

theorem derivedDemand_eligible_nodup {snapshot : FabricSnapshot} (accepted : Accepted snapshot)
    (demand : Demand) : (derivedDemand snapshot demand).eligiblePaths.Nodup := by
  by_cases active : demand.effective.covers snapshot.evaluationTick = true
  · rw [derivedDemand_eligiblePaths active]
    have kept : (((planningPaths snapshot).filter fun path =>
        (exclusionOf demand path).isNone).map PathFacts.id).Nodup :=
      (planningPaths_nodup accepted).sublist (List.filter_sublist.map _)
    have sorted : ((eligibleSorted demand (planningPaths snapshot)).map PathFacts.id).Nodup :=
      ((stableSort_perm pathKey _).map _).nodup_iff.mpr kept
    exact sorted.sublist ((List.take_sublist _ _).map _)
  · have inactive : demand.effective.covers snapshot.evaluationTick = false := by simpa using active
    rw [(derivedDemand_inactive inactive).1]
    exact List.nodup_nil

theorem derivedDemand_floor_nonneg {snapshot : FabricSnapshot} (accepted : Accepted snapshot)
    {demand : Demand} (member : demand ∈ snapshot.demands) :
    0 ≤ (derivedDemand snapshot demand).floor := by
  have range := accepted.demand_range member
  rw [derivedDemand_floor]
  omega

/-- The residual of a resource, with `available` the clamped remainder. -/
theorem publishedResidual_facts {snapshot : FabricSnapshot} (accepted : Accepted snapshot)
    {resource : FabricResource} (member : resource ∈ snapshot.capacity.resources) :
    (publishedResidual snapshot resource).resource = resource.id ∧
    0 ≤ (publishedResidual snapshot resource).reserved ∧
    (publishedResidual snapshot resource).available =
      max 0 (resource.usableCapacity -
        (resource.committedLoad + (publishedResidual snapshot resource).reserved)) ∧
    (publishedResidual snapshot resource).available ≤ resource.usableCapacity := by
  have range := accepted.resource_range member
  have reserved := reservedTotal_nonneg accepted resource.id
  have positive : (0 : Int) ≤ int64Max := by decide
  refine ⟨rfl, ?_, rfl, ?_⟩
  · exact le_min positive reserved
  · simp only [publishedResidual, withAvailable, chargedResidual, baseResidual]
    omega

end TrafficFabric
