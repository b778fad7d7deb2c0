import TrafficFabric.Problem
import TrafficFabric.Verifier

set_option autoImplicit false

/- A fresh problem holds one state for every resource, path and demand of the snapshot,
and no move changes more than ceilings, loads and shares. Lookups in any problem built
from the snapshot therefore come back with what the derivation published. -/
namespace TrafficFabric

/-- The part of a resource's state that no move changes. -/
def ResourceState.fixed (state : ResourceState) : ResourceState :=
  { state with ceiling := 0, allocated := 0 }

def DemandState.fixed (state : DemandState) : DemandState :=
  { state with granted := 0, shares := OrdMap.empty }

theorem DemandState.fixed_parts {left right : DemandState} (same : left.fixed = right.fixed) :
    left.derivation = right.derivation ∧ left.reservationFloor = right.reservationFloor ∧
      left.exclusion = right.exclusion := by
  simpa [DemandState.fixed] using same

theorem ResourceState.fixed_parts {left right : ResourceState} (same : left.fixed = right.fixed) :
    left.id = right.id ∧ left.generation = right.generation ∧ left.usable = right.usable ∧
      left.committed = right.committed ∧ left.reserved = right.reserved ∧
      left.available = right.available := by
  simpa [ResourceState.fixed] using same

structure Problem.BuiltFrom (problem : Problem) (snapshot : FabricSnapshot)
    (derived : Derivation) : Prop where
  terms : problem.terms = snapshot.objective.terms
  derivation : problem.derivation = derived
  paths : problem.paths = (makeProblem snapshot derived).paths
  resources : ∀ id, (problem.resources.find? id).map ResourceState.fixed =
    ((makeProblem snapshot derived).resources.find? id).map ResourceState.fixed
  demands : ∀ id, (problem.demands.find? id).map DemandState.fixed =
    ((makeProblem snapshot derived).demands.find? id).map DemandState.fixed

theorem makeProblem_builtFrom (snapshot : FabricSnapshot) (derived : Derivation) :
    (makeProblem snapshot derived).BuiltFrom snapshot derived :=
  ⟨rfl, rfl, rfl, fun _ => rfl, fun _ => rfl⟩

theorem Problem.BuiltFrom.same_pathOf {left right : Problem} {snapshot : FabricSnapshot}
    {derived : Derivation} (first : left.BuiltFrom snapshot derived)
    (second : right.BuiltFrom snapshot derived) : left.pathOf = right.pathOf := by
  funext id
  rw [Problem.pathOf, Problem.pathOf, first.paths, second.paths]

theorem setCeiling_builtFrom {problem : Problem} {snapshot : FabricSnapshot} {derived : Derivation}
    (built : problem.BuiltFrom snapshot derived) (permille : Int) :
    (setCeiling problem permille).BuiltFrom snapshot derived := by
  refine ⟨built.terms, built.derivation, built.paths, ?_, built.demands⟩
  intro id
  rw [← built.resources id, setCeiling, OrdMap.find?_mapValues, Option.map_map]
  rfl

/-! Lookups in a fresh problem. -/

section Fresh

variable {snapshot : FabricSnapshot} (accepted : Accepted snapshot)

include accepted

theorem freshResource_find (id : ResourceId) (state : ResourceState) :
    (makeProblem snapshot (derivation snapshot)).resources.find? id = some state ↔
      ∃ resource ∈ snapshot.capacity.resources, resource.id = id ∧
        resourceState (publishedResidual snapshot resource) = state := by
  have strict : (derivation snapshot).residuals.Pairwise
      (fun first second => first.resource < second.resource) := by
    apply List.pairwise_map.mpr
    exact accepted.resources_strict
  have found := OrdMap.find?_foldl_emplace ResourceResidual.resource resourceState _ strict id state
  apply found.trans
  simp only [derivation, List.mem_map, exists_exists_and_eq_and]
  rfl

theorem freshPath_find (id : PathId) (path : PathFacts) :
    (makeProblem snapshot (derivation snapshot)).paths.find? id = some path ↔
      path ∈ planningPaths snapshot ∧ path.id = id := by
  have strict : (planningPaths snapshot).Pairwise
      (fun first second => first.id < second.id) := by
    apply List.pairwise_map.mpr
    exact accepted.paths_strict
  have found := OrdMap.find?_foldl_emplace PathFacts.id (fun path => path) _ strict id path
  apply found.trans
  constructor
  · rintro ⟨other, member, same, rfl⟩
    exact ⟨member, same⟩
  · intro both
    exact ⟨path, both.1, both.2, rfl⟩

theorem freshDemand_find (id : DemandId) (state : DemandState) :
    (makeProblem snapshot (derivation snapshot)).demands.find? id = some state ↔
      ∃ demand ∈ snapshot.demands, demand.id = id ∧
        demandState (reservationFloors (derivation snapshot)) (derivedDemand snapshot demand) =
          state := by
  have strict : (derivation snapshot).demands.Pairwise
      (fun first second => first.demand < second.demand) := by
    apply List.pairwise_map.mpr
    simpa using accepted.demands_strict
  have found := OrdMap.find?_foldl_emplace DemandDerivation.demand
    (demandState (reservationFloors (derivation snapshot))) _ strict id state
  apply found.trans
  simp only [derivation, List.mem_map, exists_exists_and_eq_and, derivedDemand_demand]

end Fresh

/-! Reservation floors. -/

/-- Adding amounts up by key, with saturation, leaves the clamped sum of each key's amounts. -/
theorem foldl_addAmount {α K : Type} [LinearOrder K] (skipped : α → Bool) (key : α → K) (amount : α → Int)
    (items : List α) (start : OrdMap K Int) (wanted : K) (nonneg : ∀ item ∈ items, 0 ≤ amount item)
    (bounded : (start.find? wanted).getD 0 ≤ int64Max) :
    ((items.foldl (fun amounts item =>
        if skipped item then amounts else addAmount amounts (key item) (amount item)) start).find?
          wanted).getD 0 =
      min int64Max ((start.find? wanted).getD 0 +
        (items.map fun item => if skipped item = false ∧ key item = wanted then amount item
          else 0).sum) := by
  induction items generalizing start with
  | nil => simpa using (min_eq_right bounded).symm
  | cons item rest ih =>
      obtain ⟨first, later⟩ := List.forall_mem_cons.mp nonneg
      have remaining := sum_map_nonneg
        (fun item => if skipped item = false ∧ key item = wanted then amount item else 0) rest (by
          intro other member
          have positive := later other member
          split <;> omega)
      rw [List.foldl_cons, List.map_cons, List.sum_cons]
      cases passed : skipped item with
      | true =>
          rw [if_pos rfl, ih _ later bounded, if_neg (by simp)]
          omega
      | false =>
          rw [if_neg (by decide)]
          by_cases same : key item = wanted
          · have value : ((addAmount start (key item) (amount item)).find? wanted).getD 0 =
                min int64Max ((start.find? wanted).getD 0 + amount item) := by
              rw [addAmount, same, OrdMap.find?_insert_self, Option.getD_some,
                satAdd_of_nonneg first bounded]
            rw [ih _ later (by rw [value]; omega), value, if_pos ⟨rfl, same⟩]
            omega
          · have value : ((addAmount start (key item) (amount item)).find? wanted).getD 0 =
                (start.find? wanted).getD 0 := by
              rw [addAmount, OrdMap.find?_insert_ne _ _ _ _ (Ne.symm same)]
            rw [ih _ later (by rw [value]; exact bounded), value, if_neg (fun both => same both.2)]
            omega

theorem obligationOf_nonneg {snapshot : FabricSnapshot} (accepted : Accepted snapshot) (demand : DemandId) :
    0 ≤ obligationOf snapshot demand :=
  le_min (by decide) (obligationTotal_nonneg accepted demand)

/-- The floors the solver adds up from the reservations are the obligations `derive` published. -/
theorem reservationFloors_find {snapshot : FabricSnapshot} (accepted : Accepted snapshot)
    (demand : DemandId) :
    ((reservationFloors (derivation snapshot)).find? demand.str).getD 0 = obligationOf snapshot demand := by
  have shares : ∀ reservation : Reservation,
      (if (!(accountingOf snapshot reservation).active ||
        !(accountingOf snapshot reservation).chargedTo.valid) =
          false ∧ (accountingOf snapshot reservation).chargedTo.str = demand.str then
        (accountingOf snapshot reservation).bandwidth else 0) =
          demandCharge snapshot demand reservation := by
    intro reservation
    have named : (chargedTo snapshot reservation).str = demand.str ↔
        chargedTo snapshot reservation = demand :=
      ⟨Id.ext, congrArg Id.str⟩
    have absent : (default : DemandId).valid = false := rfl
    unfold accountingOf demandCharge
    by_cases active : reservation.effective.covers snapshot.evaluationTick = true
    · by_cases moved : displaceable snapshot reservation = true
      · simp [active, moved, absent]
      · by_cases charged : (chargedTo snapshot reservation).valid = true
        · simp [active, moved, charged, named]
        · simp [active, moved, charged, absent]
    · simp [active]
  have summed := foldl_addAmount
    (fun accounting : ReservationAccounting => !accounting.active || !accounting.chargedTo.valid)
    (fun accounting => accounting.chargedTo.str) ReservationAccounting.bandwidth
      (derivation snapshot).reservations
    OrdMap.empty demand.str (by
      intro accounting member
      obtain ⟨reservation, inside, rfl⟩ := List.mem_map.mp member
      have range := accepted.reservation_range inside
      have bandwidth : (accountingOf snapshot reservation).bandwidth = reservation.bandwidth := by
        unfold accountingOf
        dsimp only
        split
        · rfl
        · split
          · rfl
          · split <;> rfl
      omega)
    (by
      change (0 : Int) ≤ int64Max
      decide)
  have start : ((OrdMap.empty : OrdMap Text Int).find? demand.str).getD 0 = 0 := rfl
  rw [start, Int.zero_add] at summed
  unfold reservationFloors obligationOf obligationTotal
  rw [summed]
  simp only [derivation, List.map_map, Function.comp_def]
  congr 2
  apply List.map_congr_left
  intro reservation _
  convert shares reservation

/-! Lookups in a problem built from the snapshot. -/

namespace Problem.BuiltFrom

variable {problem : Problem} {snapshot : FabricSnapshot} (accepted : Accepted snapshot)
variable (built : problem.BuiltFrom snapshot (TrafficFabric.derivation snapshot))

include accepted built

theorem resource_of {id : ResourceId} {state : ResourceState}
    (found : problem.resources.find? id = some state) :
    ∃ resource ∈ snapshot.capacity.resources, resource.id = id ∧
      state.fixed = (resourceState (publishedResidual snapshot resource)).fixed := by
  have same := built.resources id
  rw [found, Option.map_some] at same
  obtain ⟨fresh, freshFound, equal⟩ := Option.map_eq_some_iff.mp same.symm
  obtain ⟨resource, member, named, rfl⟩ := (freshResource_find accepted id fresh).mp freshFound
  exact ⟨resource, member, named, equal.symm⟩

theorem resource_known {id : ResourceId}
    (known : id ∈ snapshot.capacity.resources.map FabricResource.id) :
    ∃ state, problem.resources.find? id = some state := by
  obtain ⟨resource, member, named⟩ := List.mem_map.mp known
  have fresh := (freshResource_find accepted id _).mpr ⟨resource, member, named, rfl⟩
  have same := built.resources id
  rw [fresh, Option.map_some] at same
  obtain ⟨state, found, -⟩ := Option.map_eq_some_iff.mp same
  exact ⟨state, found⟩

theorem pathOf_eq {path : PathFacts} (member : path ∈ planningPaths snapshot) :
    problem.pathOf path.id = path := by
  unfold Problem.pathOf
  rw [built.paths, (freshPath_find accepted path.id path).mpr ⟨member, rfl⟩]
  rfl

theorem demand_of {id : DemandId} {state : DemandState}
    (found : problem.demands.find? id = some state) :
    ∃ demand ∈ snapshot.demands, demand.id = id ∧
      state.fixed = (demandState (reservationFloors (TrafficFabric.derivation snapshot))
        (derivedDemand snapshot demand)).fixed := by
  have same := built.demands id
  rw [found, Option.map_some] at same
  obtain ⟨fresh, freshFound, equal⟩ := Option.map_eq_some_iff.mp same.symm
  obtain ⟨demand, member, named, rfl⟩ := (freshDemand_find accepted id fresh).mp freshFound
  exact ⟨demand, member, named, equal.symm⟩

theorem demand_known {demand : Demand} (member : demand ∈ snapshot.demands) :
    ∃ state, problem.demands.find? demand.id = some state ∧
      state.fixed = (demandState (reservationFloors (TrafficFabric.derivation snapshot))
        (derivedDemand snapshot demand)).fixed := by
  have fresh := (freshDemand_find accepted demand.id _).mpr ⟨demand, member, rfl, rfl⟩
  have same := built.demands demand.id
  rw [fresh, Option.map_some] at same
  obtain ⟨state, found, equal⟩ := Option.map_eq_some_iff.mp same
  exact ⟨state, found, equal⟩

/-- An eligible path is found under its identity, with resources the problem knows. -/
theorem eligible_path {demand : Demand} {id : PathId}
    (member : id ∈ (derivedDemand snapshot demand).eligiblePaths) :
    ∃ path ∈ planningPaths snapshot, path.id = id ∧ problem.pathOf id = path := by
  obtain ⟨-, path, candidate, named, -⟩ := derivedDemand_eligible member
  exact ⟨path, candidate, named, named ▸ pathOf_eq accepted built candidate⟩

end Problem.BuiltFrom

/-! Ceilings in closed form. -/

/-- What a utilisation ceiling leaves of a resource for new allocations. -/
def cappedHeadroom (residual : ResourceResidual) (permille : Int) : Int :=
  min residual.available
    (max 0 (residual.usableCapacity * permille / 1000 - residual.committedLoad - residual.reserved))

theorem ceilingOf_eq {snapshot : FabricSnapshot} (accepted : Accepted snapshot)
    (fits : overflowingResource snapshot = none) {resource : FabricResource}
    (member : resource ∈ snapshot.capacity.resources) {permille : Int} (nonneg : 0 ≤ permille)
    (bounded : permille ≤ 1000) :
    let residual := publishedResidual snapshot resource
    ceilingOf residual.usableCapacity residual.committedLoad residual.reserved residual.available
      permille = cappedHeadroom residual permille := by
  have range := accepted.resource_range member
  have limit : Limits.maxBandwidth * 1000 ≤ int64Max := by decide
  have scaledNonneg : 0 ≤ resource.usableCapacity * permille := Int.mul_nonneg range.1.1 nonneg
  have scaledBound : resource.usableCapacity * permille ≤ int64Max := by
    have product : resource.usableCapacity * permille ≤ Limits.maxBandwidth * 1000 :=
      Int.mul_le_mul range.1.2 bounded nonneg (by decide)
    omega
  have accounted : ¬ int64Max < resource.committedLoad +
      (publishedResidual snapshot resource).reserved := by
    have quiet := List.find?_eq_none.mp fits (chargedResidual snapshot resource)
      (List.mem_map.mpr ⟨resource, member, rfl⟩)
    simp only [accountingOverflows, decide_eq_true_eq] at quiet
    exact quiet
  obtain ⟨-, reserved, available, -⟩ := publishedResidual_facts accepted member
  have usable : (publishedResidual snapshot resource).usableCapacity = resource.usableCapacity := rfl
  have committed : (publishedResidual snapshot resource).committedLoad = resource.committedLoad := rfl
  simp only [ceilingOf, cappedHeadroom, usable, committed]
  rw [mulChecked_of_nonneg range.1.1 nonneg scaledBound, addChecked_of_nonneg reserved,
    if_neg (fun exceeds => accounted exceeds.1)]
  simp only [Int.tdiv_eq_ediv_of_nonneg scaledNonneg]
  split <;> omega

end TrafficFabric
