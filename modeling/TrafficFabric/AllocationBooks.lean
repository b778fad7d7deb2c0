import TrafficFabric.SolverSafety

set_option autoImplicit false

/- The books of a constructed allocation. Its figures are added up by different loops from the shares of
the finished problem, and they agree. -/
namespace TrafficFabric

/-- The reserved part and the shortfalls of an entry follow from its grant. -/
structure EntryCloses (demand : DemandDerivation) (entry : DemandAllocation) : Prop where
  named : entry.demand = demand.demand
  reserved : entry.reserved = min demand.reservationObligation entry.granted
  covered : (entry.shares.map PathShare.reserved).sum = entry.reserved
  shares : ∀ share ∈ entry.shares, 0 ≤ share.reserved ∧ share.reserved ≤ share.granted
  minimum : entry.shortfallAgainstMinimum =
    if demand.active then max 0 (demand.floor - entry.granted) else 0
  desired : entry.shortfallAgainstDesired =
    if demand.active then max 0 (demand.desired - entry.granted) else 0

/-- Every figure of the allocation adds up, and there is one entry for each demand. -/
structure BooksClose (snapshot : FabricSnapshot) (derived : Derivation) (allocation : Allocation) :
    Prop where
  entries : List.Forall₂ EntryCloses derived.demands allocation.demands
  demands : allocation.demands.map DemandAllocation.demand = snapshot.demands.map Demand.id
  ordered : (allocation.demands.map DemandAllocation.demand).Pairwise (· < ·)
  granted : allocation.totalGranted = (allocation.demands.map DemandAllocation.granted).sum
  reserved : allocation.totalReserved = (allocation.demands.map DemandAllocation.reserved).sum
  resources : allocation.resources.map ResourceUtilization.resource =
    snapshot.capacity.resources.map FabricResource.id
  headroom : ∀ utilization ∈ allocation.resources,
    utilization.headroom = utilization.available - utilization.allocated ∧ 0 ≤ utilization.headroom

/-- Nothing in the allocation is negative, and the grants add up to the total. -/
structure Allocation.Drafted (allocation : Allocation) : Prop where
  entries : ∀ entry ∈ allocation.demands, 0 ≤ entry.granted ∧ entry.granted ≤ Limits.maxBandwidth
  shares : ∀ entry ∈ allocation.demands, ∀ share ∈ entry.shares, 0 ≤ share.granted
  carried : ∀ entry ∈ allocation.demands, entry.granted = (entry.shares.map PathShare.granted).sum
  total : allocation.totalGranted = (allocation.demands.map DemandAllocation.granted).sum
  fits : allocation.totalGranted ≤ int64Max
  resources : ∀ utilization ∈ allocation.resources, 0 ≤ utilization.allocated ∧
    0 ≤ utilization.headroom ∧ utilization.headroom ≤ Limits.maxBandwidth

theorem Allocation.Drafted.share_le {allocation : Allocation} (drafted : allocation.Drafted)
    {entry : DemandAllocation}
    (listed : entry ∈ allocation.demands) {share : PathShare} (inside : share ∈ entry.shares) :
    share.granted ≤ entry.granted := by
  rw [drafted.carried entry listed]
  exact le_sum_map PathShare.granted entry.shares (drafted.shares entry listed) share inside

theorem Allocation.Drafted.total_nonneg {allocation : Allocation} (drafted : allocation.Drafted) :
    0 ≤ allocation.totalGranted := by
  rw [drafted.total]
  exact sum_map_nonneg DemandAllocation.granted allocation.demands fun entry listed =>
    (drafted.entries entry listed).1

section Books

variable {snapshot : FabricSnapshot} {permille : Int} (accepted : Accepted snapshot)
variable {problem : Problem} (safe : problem.Safe snapshot permille) (options : SolveOptions)

include accepted safe

theorem entryOf_closes {demand : Demand} (member : demand ∈ snapshot.demands) :
    EntryCloses (derivedDemand snapshot demand)
      (entryOf options problem (derivedDemand snapshot demand)) := by
  obtain ⟨shares, covered⟩ := entryOf_covered accepted safe member options
  have obligation := safe.reservation_floor accepted member
  refine ⟨rfl, ?_, covered, shares, ?_, ?_⟩
  · simp only [entryOf, derivedDemand_demand, derivedDemand_reservationObligation, obligation]
  · simp only [entryOf, derivedDemand_demand, Bool.and_eq_true, decide_eq_true_eq]
    by_cases active : (derivedDemand snapshot demand).active = true
    · simp only [active, true_and, ↓reduceIte]
      split <;> omega
    · rw [if_neg (fun both => active both.1), if_neg active]
  · simp only [entryOf, derivedDemand_demand, Bool.and_eq_true, decide_eq_true_eq]
    by_cases active : (derivedDemand snapshot demand).active = true
    · simp only [active, true_and, ↓reduceIte]
      split <;> omega
    · rw [if_neg (fun both => active both.1), if_neg active]

variable (problem) in
omit safe in
/-- No more than the maximum of every demand is granted, and that many maxima fit the machine type. -/
theorem total_fits (amount : DemandAllocation → Int) (range : ∀ demand ∈ snapshot.demands,
      0 ≤ amount (entryOf options problem (derivedDemand snapshot demand)) ∧
        amount (entryOf options problem (derivedDemand snapshot demand)) ≤ Limits.maxBandwidth) :
    ((derivation snapshot).demands.map (entryOf options problem)).foldl
        (fun total entry => satAdd total (amount entry)) 0 =
      (((derivation snapshot).demands.map (entryOf options problem)).map amount).sum := by
  have limit : (Limits.maxDemands : Int) * Limits.maxBandwidth ≤ int64Max := by decide
  have count := accepted.demands_length
  have within : ∀ entry ∈ (derivation snapshot).demands.map (entryOf options problem),
      0 ≤ amount entry ∧ amount entry ≤ Limits.maxBandwidth := by
    intro entry listed
    obtain ⟨derived, inside, rfl⟩ := List.mem_map.mp listed
    obtain ⟨demand, member, rfl⟩ := List.mem_map.mp inside
    exact range demand member
  have bound := List.sum_le_card_nsmul
    (((derivation snapshot).demands.map (entryOf options problem)).map amount) Limits.maxBandwidth (by
      intro value listed
      obtain ⟨entry, inside, rfl⟩ := List.mem_map.mp listed
      exact (within entry inside).2)
  have scaled : (snapshot.demands.length : Int) * Limits.maxBandwidth ≤
      (Limits.maxDemands : Int) * Limits.maxBandwidth :=
    Int.mul_le_mul_of_nonneg_right (by omega) (by decide)
  rw [foldl_satAdd amount _ 0 (fun entry listed => (within entry listed).1) (by decide), Int.zero_add]
  rw [Int.nsmul_eq_mul, List.length_map, List.length_map, derivation, List.length_map] at bound
  apply min_eq_right
  exact bound.trans (scaled.trans limit)

theorem buildAllocation_closes (fits : overflowingResource snapshot = none) (nonneg : 0 ≤ permille)
    (bounded : permille ≤ snapshot.policy.maxUtilizationPermille) (degraded : Bool) :
    BooksClose snapshot (derivation snapshot)
      { buildAllocation options problem with degraded := degraded } := by
  have entries := buildAllocation_demands accepted safe options
  have derived := safe.consistent.built.derivation
  have ids : ((derivation snapshot).demands.map (entryOf options problem)).map DemandAllocation.demand =
      snapshot.demands.map Demand.id := by
    simp [derivation, entryOf, Function.comp_def]
  refine ⟨?_, ?_, ?_, ?_, ?_, ?_, ?_⟩
  · dsimp only
    rw [entries, List.forall₂_map_right_iff, List.forall₂_same]
    intro entry listed
    obtain ⟨demand, member, rfl⟩ := List.mem_map.mp listed
    exact entryOf_closes accepted safe options member
  · dsimp only
    rw [entries, ids]
  · dsimp only
    rw [entries, ids]
    exact List.pairwise_map.mpr accepted.demands_strict
  · have total := total_fits accepted problem options DemandAllocation.granted (by
      intro demand member
      have range := accepted.demand_range member
      obtain ⟨low, high⟩ := entryOf_granted_range accepted safe member options
      omega)
    dsimp only
    rw [entries, ← total]
    unfold buildAllocation
    dsimp only
    rw [derived]
  · have total := total_fits accepted problem options DemandAllocation.reserved (by
      intro demand member
      have range := accepted.demand_range member
      have closes := (entryOf_closes accepted safe options member).reserved
      have charged := obligationOf_nonneg accepted demand.id
      obtain ⟨low, high⟩ := entryOf_granted_range accepted safe member options
      rw [derivedDemand_reservationObligation] at closes
      omega)
    dsimp only
    rw [entries, ← total]
    unfold buildAllocation
    dsimp only
    rw [derived]
  · unfold buildAllocation
    dsimp only
    rw [derived, derivation, List.map_map, List.map_map]
    rfl
  · intro utilization listed
    unfold buildAllocation at listed
    dsimp only at listed
    rw [derived, derivation, List.map_map] at listed
    obtain ⟨resource, member, rfl⟩ := List.mem_map.mp listed
    refine ⟨rfl, ?_⟩
    obtain ⟨state, found, load, -⟩ := problem_resource accepted safe member
    have within := load_le_cap accepted safe fits nonneg bounded member
    have allocated : ((problem.resources.find? resource.id).getD default).allocated =
        problem.load resource.id := by
      rw [found]
      exact load
    change 0 ≤ (publishedResidual snapshot resource).available -
      ((problem.resources.find? resource.id).getD default).allocated
    omega

theorem buildAllocation_drafted (fits : overflowingResource snapshot = none) (nonneg : 0 ≤ permille)
    (bounded : permille ≤ snapshot.policy.maxUtilizationPermille) (degraded : Bool) :
    Allocation.Drafted { buildAllocation options problem with degraded := degraded } := by
  have closes := buildAllocation_closes accepted safe options fits nonneg bounded degraded
  have range : ∀ demand ∈ snapshot.demands,
      0 ≤ (entryOf options problem (derivedDemand snapshot demand)).granted ∧
        (entryOf options problem (derivedDemand snapshot demand)).granted ≤ Limits.maxBandwidth := by
    intro demand member
    have most := accepted.demand_range member
    obtain ⟨low, high⟩ := entryOf_granted_range accepted safe member options
    omega
  refine ⟨?_, ?_, ?_, closes.granted, ?_, ?_⟩
  · intro entry listed
    obtain ⟨demand, member, rfl⟩ := (mem_buildAllocation safe options).mp listed
    exact range demand member
  · intro entry listed share inside
    obtain ⟨demand, member, rfl⟩ := (mem_buildAllocation safe options).mp listed
    exact (entryOf_share accepted safe member options inside).1.le
  · intro entry listed
    obtain ⟨demand, member, rfl⟩ := (mem_buildAllocation safe options).mp listed
    exact entryOf_granted accepted safe member options
  · have derived := safe.consistent.built.derivation
    unfold buildAllocation
    dsimp only
    rw [derived, foldl_satAdd DemandAllocation.granted _ 0 _ (by decide)]
    · exact min_le_left _ _
    · intro entry listed
      obtain ⟨inner, inside, rfl⟩ := List.mem_map.mp listed
      obtain ⟨demand, member, rfl⟩ := List.mem_map.mp inside
      exact (range demand member).1
  · intro utilization listed
    obtain ⟨closed, above⟩ := closes.headroom utilization listed
    unfold buildAllocation at listed
    dsimp only at listed
    rw [safe.consistent.built.derivation, derivation, List.map_map] at listed
    obtain ⟨resource, member, rfl⟩ := List.mem_map.mp listed
    obtain ⟨state, found, load, -⟩ := problem_resource accepted safe member
    obtain ⟨-, -, -, available⟩ := publishedResidual_facts accepted member
    have usable := accepted.resource_range member
    have carried := safe.consistent.load_nonneg resource.id
    have allocated : (utilizationOf problem (publishedResidual snapshot resource)).allocated =
        problem.load resource.id := by
      change ((problem.resources.find? resource.id).getD default).allocated = _
      rw [found]
      exact load
    have residual : (utilizationOf problem (publishedResidual snapshot resource)).available =
        (publishedResidual snapshot resource).available := rfl
    rw [Function.comp_apply] at closed above ⊢
    rw [allocated, residual] at closed
    omega

end Books

/-- Whatever the solver answers is drafted. -/
theorem solve_drafted {snapshot : FabricSnapshot} {options : SolveOptions} {outcome : SolveOutcome}
    (accepted : Accepted snapshot) (solved : solve snapshot options = .ok outcome) :
    outcome.allocation.Drafted := by
  obtain ⟨derived, derives⟩ := derives_of_solve solved
  rw [(solve_eq_ok derives solved).2]
  by_cases constructs : Constructs snapshot derived
  · obtain ⟨nonneg, bounded⟩ := startingCeiling_range accepted derived
    rw [solveDerived_constructs constructs]
    obtain ⟨degraded, built⟩ := plan_allocation snapshot derived options (startingCeiling snapshot derived)
      (reservationConflict derived)
    obtain ⟨fits, rfl⟩ := (derive_eq_ok accepted derived).mp derives
    obtain ⟨permille, low, high, safe⟩ := constructed_safe accepted options nonneg bounded
    rw [built]
    exact buildAllocation_drafted accepted safe options fits low high degraded
  · rw [(solveDerived_refuses accepted constructs options).1]
    have none : ∀ {α : Type} {holds : α → Prop}, ∀ item ∈ ([] : List α), holds item :=
      fun _ member => absurd member List.not_mem_nil
    exact ⟨none, none, none, rfl, by decide, none⟩

/-- The books of every allocation the solver constructs close. -/
theorem solve_books_close {snapshot : FabricSnapshot} {options : SolveOptions} {derived : Derivation}
    {outcome : SolveOutcome} (accepted : Accepted snapshot) (derives : derive snapshot = .ok derived)
    (solved : solve snapshot options = .ok outcome) (constructs : Constructs snapshot derived) :
    BooksClose snapshot derived outcome.allocation := by
  obtain ⟨fits, rfl⟩ := (derive_eq_ok accepted derived).mp derives
  obtain ⟨nonneg, bounded⟩ := startingCeiling_range accepted (derivation snapshot)
  obtain ⟨permille, low, high, safe⟩ := constructed_safe accepted options nonneg bounded
  rw [(solve_eq_ok derives solved).2, solveDerived_constructs constructs]
  exact buildAllocation_closes accepted safe options fits low high _

/-- The mesh fabric grants its two demands 120 units in all. -/
theorem solve_books_close_meshFabric : ∃ outcome, solve meshFabric {} = .ok outcome ∧
    outcome.allocation.totalGranted = 120 ∧
    BooksClose meshFabric (derivation meshFabric) outcome.allocation :=
  ⟨_, meshFabric_solved {} (by decide), by decide +kernel,
    solve_books_close meshFabric_accepted meshFabric_derives (meshFabric_solved {} (by decide))
      meshFabric_constructs⟩

end TrafficFabric
