import TrafficFabric.Construction
import TrafficFabric.VerifierPolicy

set_option autoImplicit false

/- The allocation read off a safe problem: its entries carry the shares of the problem, and
its exact loads are the loads the problem kept. -/
namespace TrafficFabric

variable {snapshot : FabricSnapshot} {permille : Int} (accepted : Accepted snapshot)

/-! Sums over all demands. -/

include accepted in
theorem Problem.BuiltFrom.demand_entries {problem : Problem}
    (built : problem.BuiltFrom snapshot (TrafficFabric.derivation snapshot)) :
    problem.demands.entries =
      snapshot.demands.map fun demand => (demand.id, problem.demandOf demand.id) := by
  have same : problem.demands.mapValues DemandState.fixed =
      (makeProblem snapshot (TrafficFabric.derivation snapshot)).demands.mapValues
        DemandState.fixed := by
    apply OrdMap.ext_find?
    intro id
    rw [OrdMap.find?_mapValues, OrdMap.find?_mapValues]
    exact built.demands id
  have strict : (TrafficFabric.derivation snapshot).demands.Pairwise
      (fun first second => first.demand < second.demand) := by
    apply List.pairwise_map.mpr
    simpa using accepted.demands_strict
  have fresh := OrdMap.entries_foldl_emplace DemandDerivation.demand
    (demandState (reservationFloors (TrafficFabric.derivation snapshot))) _ OrdMap.empty strict
    (by intro entry member; cases member)
  have keys : problem.demands.keys = snapshot.demands.map Demand.id := by
    have equal := congrArg OrdMap.keys same
    rw [OrdMap.keys_mapValues, OrdMap.keys_mapValues] at equal
    rw [equal]
    change (OrdMap.entries _).map (·.1) = _
    unfold makeProblem
    dsimp only
    rw [fresh]
    simp [OrdMap.empty, TrafficFabric.derivation, Function.comp_def]
  have lookup : problem.demands.entries =
      problem.demands.keys.map fun id => (id, problem.demandOf id) := by
    unfold OrdMap.keys
    rw [List.map_map]
    conv_lhs => rw [← List.map_id problem.demands.entries]
    apply List.map_congr_left
    intro entry member
    have found := (OrdMap.mem_entries_iff _ entry.1 entry.2).mp member
    simp [Problem.demandOf, found]
  rw [lookup, keys, List.map_map]
  rfl

include accepted in
theorem Problem.BuiltFrom.load_eq {problem : Problem}
    (built : problem.BuiltFrom snapshot (TrafficFabric.derivation snapshot)) (id : ResourceId) :
    problem.load id = (snapshot.demands.map fun demand =>
      (problem.demandOf demand.id).placed fun path =>
        decide (id ∈ (problem.pathOf path).resources)).sum := by
  unfold Problem.load OrdMap.total
  rw [built.demand_entries accepted, List.map_map]
  rfl

/-! Entries. -/

/-- Marking reserved bandwidth changes no path and no grant. -/
theorem markReserved_map {α : Type} (read : PathId → Gen .path → Int → α) (remaining : Int)
    (shares : List PathShare) :
    (markReserved remaining shares).map (fun share => read share.path share.generation share.granted) =
      shares.map fun share => read share.path share.generation share.granted := by
  induction shares generalizing remaining with
  | nil => rfl
  | cons share rest ih =>
      rw [markReserved]
      split
      · rfl
      · simp only [List.map_cons, ih]

/-- Marking covers as much of the amount as the shares can carry. -/
theorem markReserved_reserved (remaining : Int) (shares : List PathShare)
    (unmarked : ∀ share ∈ shares, share.reserved = 0) (nonneg : ∀ share ∈ shares, 0 ≤ share.granted) :
    (∀ share ∈ markReserved remaining shares, 0 ≤ share.reserved ∧ share.reserved ≤ share.granted) ∧
      ((markReserved remaining shares).map PathShare.reserved).sum =
        max 0 (min remaining (shares.map PathShare.granted).sum) := by
  induction shares generalizing remaining with
  | nil => simp [markReserved]
  | cons share rest ih =>
      obtain ⟨-, laterUnmarked⟩ := List.forall_mem_cons.mp unmarked
      obtain ⟨granted, laterNonneg⟩ := List.forall_mem_cons.mp nonneg
      have below := sum_map_nonneg PathShare.granted rest laterNonneg
      rw [markReserved]
      split
      · rename_i covered
        refine ⟨fun other listed => ?_, ?_⟩
        · rw [unmarked other listed]
          exact ⟨le_refl 0, nonneg other listed⟩
        · rw [sum_map_eq_zero PathShare.reserved _ unmarked]
          omega
      · obtain ⟨later, total⟩ := ih (remaining - min remaining share.granted) laterUnmarked laterNonneg
        refine ⟨List.forall_mem_cons.mpr ⟨?_, later⟩, ?_⟩
        · change 0 ≤ min remaining share.granted ∧ min remaining share.granted ≤ share.granted
          omega
        · rw [List.map_cons, List.sum_cons, List.map_cons, List.sum_cons, total]
          change min remaining share.granted + _ = _
          omega

theorem shareOf_fields (options : SolveOptions) (problem : Problem) (demand : DemandId)
    (share : PathId × Int) :
    (shareOf options problem demand share).path = share.1 ∧
    (shareOf options problem demand share).generation = (problem.pathOf share.1).generation ∧
    (shareOf options problem demand share).granted = share.2 := by
  unfold shareOf
  dsimp only
  split <;> exact ⟨rfl, rfl, rfl⟩

section Entries

variable {problem : Problem} (safe : problem.Safe snapshot permille)
variable {demand : Demand} (member : demand ∈ snapshot.demands) (options : SolveOptions)

include accepted safe member

/-- The shares of an entry are those of the demand's state. -/
theorem entryOf_shares {α : Type} (read : PathId → Gen .path → Int → α) :
    (entryOf options problem (derivedDemand snapshot demand)).shares.map
        (fun share => read share.path share.generation share.granted) =
      (problem.demandOf demand.id).shares.entries.map fun share =>
        read share.1 (problem.pathOf share.1).generation share.2 := by
  obtain ⟨state, found, current, -, -⟩ := safe.demand_state accepted member
  have positive : (state.shares.entries.filter fun share => decide (0 < share.2)) =
      state.shares.entries := by
    apply List.filter_eq_self.mpr
    intro share held
    have present := (OrdMap.mem_entries_iff _ share.1 share.2).mp held
    simpa using (safe.consistent.shares _ state found share.1 share.2 present).1
  unfold entryOf
  dsimp only
  rw [markReserved_map, derivedDemand_demand, current, positive, List.map_map]
  apply List.map_congr_left
  intro share _
  obtain ⟨path, generation, granted⟩ := shareOf_fields options problem demand.id share
  simp only [Function.comp_def, path, generation, granted]

/-- Every share is positive, on an eligible path, at the path's generation. -/
theorem entryOf_share {share : PathShare}
    (listed : share ∈ (entryOf options problem (derivedDemand snapshot demand)).shares) :
    0 < share.granted ∧ share.path ∈ (derivedDemand snapshot demand).eligiblePaths ∧
      findPath snapshot share.path = some (problem.pathOf share.path) ∧
      share.generation = (problem.pathOf share.path).generation := by
  obtain ⟨state, found, current, derived, -⟩ := safe.demand_state accepted member
  have triple := List.mem_map_of_mem (f := fun share : PathShare =>
    (share.path, share.generation, share.granted)) listed
  rw [entryOf_shares accepted safe member options (fun path generation granted =>
    (path, generation, granted)), current, List.mem_map] at triple
  obtain ⟨held, inside, same⟩ := triple
  have path : held.1 = share.path := congrArg Prod.fst same
  have generation : (problem.pathOf held.1).generation = share.generation :=
    congrArg (fun parts => parts.2.1) same
  have granted : held.2 = share.granted := congrArg (fun parts => parts.2.2) same
  have present := (OrdMap.mem_entries_iff _ held.1 held.2).mp inside
  obtain ⟨positive, eligible, -⟩ := safe.consistent.shares _ state found held.1 held.2 present
  obtain ⟨candidate, named⟩ := safe.consistent.eligible_candidate accepted found eligible
  have lookup := findPath_eq_some accepted candidate
  rw [named] at lookup
  rw [← path, ← granted, ← derived]
  exact ⟨positive, eligible, lookup, generation.symm⟩

theorem entryOf_paths_nodup :
    ((entryOf options problem (derivedDemand snapshot demand)).shares.map PathShare.path).Nodup := by
  rw [entryOf_shares accepted safe member options (fun path _ _ => path)]
  exact (problem.demandOf demand.id).shares.keys_nodup

theorem entryOf_granted :
    (entryOf options problem (derivedDemand snapshot demand)).granted =
      ((entryOf options problem (derivedDemand snapshot demand)).shares.map PathShare.granted).sum := by
  obtain ⟨state, found, current, -, -⟩ := safe.demand_state accepted member
  rw [entryOf_shares accepted safe member options (fun _ _ granted => granted)]
  have grants := safe.consistent.grants _ state found
  simp only [entryOf, derivedDemand_demand, current]
  rw [grants]
  simp [DemandState.placed, OrdMap.total]

theorem entryOf_granted_range :
    0 ≤ (entryOf options problem (derivedDemand snapshot demand)).granted ∧
      (entryOf options problem (derivedDemand snapshot demand)).granted ≤
        demand.maximumBandwidth := by
  obtain ⟨state, found, current, derived, -⟩ := safe.demand_state accepted member
  have nonneg := safe.consistent.granted_nonneg found
  have maximum := safe.maximum _ state found
  rw [derived, derivedDemand_maximum] at maximum
  simp only [entryOf, derivedDemand_demand, current]
  exact ⟨nonneg, maximum⟩

/-- The shares of an entry cover its reserved amount, each up to what it carries. -/
theorem entryOf_covered :
    (∀ share ∈ (entryOf options problem (derivedDemand snapshot demand)).shares,
      0 ≤ share.reserved ∧ share.reserved ≤ share.granted) ∧
    ((entryOf options problem (derivedDemand snapshot demand)).shares.map PathShare.reserved).sum =
      (entryOf options problem (derivedDemand snapshot demand)).reserved := by
  have obligation := safe.reservation_floor accepted member
  have charged := obligationOf_nonneg accepted demand.id
  have range := entryOf_granted_range accepted safe member options
  have total := entryOf_granted accepted safe member options
  have marked := markReserved_reserved
    (min (min (problem.demandOf demand.id).reservationFloor (problem.demandOf demand.id).granted)
      (problem.demandOf demand.id).granted)
    (((problem.demandOf demand.id).shares.entries.filter fun share => decide (0 < share.2)).map
      (shareOf options problem demand.id))
    (by
      intro share listed
      obtain ⟨held, -, rfl⟩ := List.mem_map.mp listed
      unfold shareOf
      dsimp only
      split <;> rfl)
    (by
      intro share listed
      obtain ⟨held, kept, rfl⟩ := List.mem_map.mp listed
      rw [(shareOf_fields options problem demand.id held).2.2]
      have positive : 0 < held.2 := by simpa using (List.mem_filter.mp kept).2
      omega)
  have granted := markReserved_map (fun _ _ granted => granted)
    (min (min (problem.demandOf demand.id).reservationFloor (problem.demandOf demand.id).granted)
      (problem.demandOf demand.id).granted)
    (((problem.demandOf demand.id).shares.entries.filter fun share => decide (0 < share.2)).map
      (shareOf options problem demand.id))
  simp only [entryOf, derivedDemand_demand] at range total ⊢
  refine ⟨marked.1, ?_⟩
  rw [marked.2]
  change List.map PathShare.granted _ = List.map PathShare.granted _ at granted
  rw [granted] at total
  omega

theorem entryOf_load (resource : ResourceId) :
    entryLoad snapshot resource (entryOf options problem (derivedDemand snapshot demand)) =
      (problem.demandOf demand.id).placed fun path =>
        decide (resource ∈ (problem.pathOf path).resources) := by
  have shares := entryOf_shares accepted safe member options (fun path _ granted =>
    if decide (resource ∈ (problem.pathOf path).resources) then granted else 0)
  unfold DemandState.placed OrdMap.total
  rw [← shares]
  unfold entryLoad
  congr 1
  apply List.map_congr_left
  intro share listed
  obtain ⟨-, -, lookup, -⟩ := entryOf_share accepted safe member options listed
  unfold shareLoad
  rw [lookup]
  simp

end Entries

/-! The allocation. -/

section Whole

variable {problem : Problem} (safe : problem.Safe snapshot permille) (options : SolveOptions)

include safe in
theorem mem_buildAllocation {entry : DemandAllocation} :
    entry ∈ (buildAllocation options problem).demands ↔ ∃ demand ∈ snapshot.demands,
      entryOf options problem (derivedDemand snapshot demand) = entry := by
  unfold buildAllocation
  dsimp only
  rw [mem_stableSort, safe.consistent.built.derivation, derivation]
  simp

include accepted safe

/-- Sorting the entries changes nothing: the demands come in the order of their identities. -/
theorem buildAllocation_demands : (buildAllocation options problem).demands =
    (derivation snapshot).demands.map (entryOf options problem) := by
  unfold buildAllocation
  dsimp only
  rw [safe.consistent.built.derivation]
  apply stableSort_eq_self
  rw [derivation, List.map_map, List.pairwise_map]
  have strict : snapshot.demands.Pairwise fun first second => first.id < second.id :=
    accepted.demands_strict
  exact strict.imp fun below => by simpa [entryOf] using le_of_lt below

theorem buildAllocation_load (degraded : Bool) (id : ResourceId) :
    allocationLoad snapshot { buildAllocation options problem with degraded := degraded } id =
      problem.load id := by
  have sorted := (stableSort_perm DemandAllocation.demand
    (problem.derivation.demands.map (entryOf options problem))).map (entryLoad snapshot id)
  unfold allocationLoad buildAllocation
  dsimp only
  rw [sorted.sum_eq, safe.consistent.built.load_eq accepted, safe.consistent.built.derivation,
    derivation]
  simp only [List.map_map]
  congr 1
  apply List.map_congr_left
  intro demand member
  exact entryOf_load accepted safe member options id

theorem problem_resource {resource : FabricResource} (member : resource ∈ snapshot.capacity.resources) :
    ∃ state, problem.resources.find? resource.id = some state ∧
      state.allocated = problem.load resource.id ∧
      state.allocated ≤ ceilingOf (publishedResidual snapshot resource).usableCapacity
        (publishedResidual snapshot resource).committedLoad
        (publishedResidual snapshot resource).reserved
        (publishedResidual snapshot resource).available permille := by
  obtain ⟨state, found⟩ := safe.consistent.built.resource_known accepted
    (List.mem_map_of_mem member)
  obtain ⟨source, inside, named, same⟩ := safe.consistent.built.resource_of accepted found
  have equal : source = resource :=
    List.inj_on_of_nodup_map accepted.capacity_checks.2.2 inside member named
  subst equal
  obtain ⟨-, -, usable, committed, reserved, available⟩ := ResourceState.fixed_parts same
  refine ⟨state, found, safe.consistent.loads _ state found, ?_⟩
  have within := safe.consistent.within _ state found
  rw [safe.consistent.ceilings _ state found] at within
  simp only [recomputeCeiling, usable, committed, reserved, available] at within
  exact within

/-- The exact load of every resource is what the policy's utilisation cap leaves of it. -/
theorem load_le_cap (fits : overflowingResource snapshot = none) (nonneg : 0 ≤ permille)
    (bounded : permille ≤ snapshot.policy.maxUtilizationPermille) {resource : FabricResource}
    (member : resource ∈ snapshot.capacity.resources) :
    problem.load resource.id ≤ min (publishedResidual snapshot resource).available
      (policyHeadroom snapshot.policy (publishedResidual snapshot resource)) := by
  obtain ⟨state, -, load, within⟩ := problem_resource accepted safe member
  have cap := accepted.policy_cap
  have range := accepted.resource_range member
  rw [ceilingOf_eq accepted fits member nonneg (by omega)] at within
  have scaled : (publishedResidual snapshot resource).usableCapacity * permille / 1000 ≤
      (publishedResidual snapshot resource).usableCapacity *
        snapshot.policy.maxUtilizationPermille / 1000 := by
    apply Int.ediv_le_ediv (by decide)
    exact Int.mul_le_mul_of_nonneg_left bounded range.1.1
  unfold cappedHeadroom at within
  unfold policyHeadroom
  omega

end Whole

end TrafficFabric
