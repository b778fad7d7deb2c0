import TrafficFabric.Repair
import TrafficFabric.Solve

set_option autoImplicit false

/- Every phase of the construction keeps the problem safe, under one ceiling that never
passes the policy cap. -/
namespace TrafficFabric

variable {snapshot : FabricSnapshot} {permille : Int} (accepted : Accepted snapshot)

/-! The fresh problem. -/

include accepted in
theorem fresh_safe (permille : Int) :
    (setCeiling (makeProblem snapshot (derivation snapshot)) permille).Safe snapshot permille := by
  have fresh : ∀ id state, (makeProblem snapshot (derivation snapshot)).demands.find? id =
      some state → state.shares = OrdMap.empty ∧ state.granted = 0 ∧
        0 ≤ state.derivation.maximum := by
    intro id state found
    obtain ⟨demand, member, -, rfl⟩ := (freshDemand_find accepted id state).mp found
    have range := accepted.demand_range member
    refine ⟨rfl, rfl, ?_⟩
    change 0 ≤ (derivedDemand snapshot demand).maximum
    rw [derivedDemand_maximum]
    omega
  have resources : ∀ id resource, (setCeiling (makeProblem snapshot (derivation snapshot))
      permille).resources.find? id = some resource → ∃ before : ResourceState,
        resource = recomputeCeiling before permille ∧ before.allocated = 0 := by
    intro id resource found
    simp only [setCeiling, OrdMap.find?_mapValues, Option.map_eq_some_iff] at found
    obtain ⟨before, present, rfl⟩ := found
    obtain ⟨source, -, -, rfl⟩ := (freshResource_find accepted id before).mp present
    exact ⟨_, rfl, rfl⟩
  have load : ∀ id, (setCeiling (makeProblem snapshot (derivation snapshot)) permille).load id =
      0 := by
    intro id
    apply OrdMap.total_eq_zero
    intro demand state found
    rw [DemandState.placed, (fresh demand state found).1]
    rfl
  refine ⟨⟨setCeiling_builtFrom (makeProblem_builtFrom _ _) permille, ?_, ?_, ?_, ?_, ?_⟩, ?_⟩
  · intro id resource found
    obtain ⟨before, rfl, -⟩ := resources id resource found
    rfl
  · intro id resource found
    obtain ⟨before, rfl, zero⟩ := resources id resource found
    rw [load]
    exact zero
  · intro id resource found
    obtain ⟨before, rfl, zero⟩ := resources id resource found
    simp only [recomputeCeiling, ceilingOf, zero]
    omega
  · intro id state found path amount held
    rw [(fresh id state found).1] at held
    cases held
  · intro id state found
    rw [DemandState.placed, (fresh id state found).1, (fresh id state found).2.1]
    rfl
  · intro id state found
    rw [(fresh id state found).2.1]
    exact (fresh id state found).2.2

/-! Demands of the snapshot in a safe problem. -/

include accepted in
theorem Problem.Safe.demand_state {problem : Problem} (safe : problem.Safe snapshot permille)
    {demand : Demand} (member : demand ∈ snapshot.demands) :
    ∃ state, problem.demands.find? demand.id = some state ∧ problem.demandOf demand.id = state ∧
      state.derivation = derivedDemand snapshot demand ∧
      state.exclusion = policyExclusion (derivedDemand snapshot demand).notes := by
  obtain ⟨state, found, same⟩ := safe.consistent.built.demand_known accepted member
  have parts := DemandState.fixed_parts same
  refine ⟨state, found, ?_, parts.1, parts.2.2⟩
  rw [Problem.demandOf, found]
  rfl

include accepted in
theorem Problem.Safe.reservation_floor {problem : Problem} (safe : problem.Safe snapshot permille)
    {demand : Demand} (member : demand ∈ snapshot.demands) :
    (problem.demandOf demand.id).reservationFloor = obligationOf snapshot demand.id := by
  obtain ⟨state, found, same⟩ := safe.consistent.built.demand_known accepted member
  have floor := (DemandState.fixed_parts same).2.1
  rw [Problem.demandOf, found, Option.getD_some, floor, demandState, derivedDemand_demand]
  exact reservationFloors_find accepted demand.id

theorem mem_processingOrder {id : DemandId}
    (member : id ∈ canonicalProcessingOrder (derivation snapshot)) :
    ∃ demand ∈ snapshot.demands, demand.id = id := by
  unfold canonicalProcessingOrder at member
  rw [List.mem_map] at member
  obtain ⟨derived, sorted, named⟩ := member
  rw [mem_stableSort, List.mem_filter] at sorted
  obtain ⟨demand, inside, rfl⟩ := List.mem_map.mp sorted.1
  exact ⟨demand, inside, by rw [← named, derivedDemand_demand]⟩

include accepted in
theorem Problem.Safe.mem_orderPaths {problem : Problem} (safe : problem.Safe snapshot permille)
    {demand : Demand} (member : demand ∈ snapshot.demands) (options : SolveOptions) :
    ∀ path ∈ orderPaths problem demand.id options,
      path ∈ (derivedDemand snapshot demand).eligiblePaths := by
  obtain ⟨state, -, current, derived, -⟩ := safe.demand_state accepted member
  intro path ordered
  unfold orderPaths at ordered
  rw [mem_stableSort, current, derived] at ordered
  exact ordered

/-- Policy does not remove the demand. -/
def Admitted (snapshot : FabricSnapshot) (demand : Demand) : Prop :=
  policyExclusion (derivedDemand snapshot demand).notes = []

section Phases

variable {demand : Demand} (member : demand ∈ snapshot.demands) (admitted : Admitted snapshot demand)

include accepted member admitted

theorem Problem.Safe.place {problem : Problem} (safe : problem.Safe snapshot permille)
    {order : List PathId}
    (eligible : ∀ path ∈ order, path ∈ (derivedDemand snapshot demand).eligiblePaths) (need : Int) :
    (place problem demand.id order need).2.Safe snapshot permille := by
  obtain ⟨state, found, -, derived, exclusion⟩ := safe.demand_state accepted member
  apply place_safe accepted safe found (exclusion.trans admitted)
  rw [derived]
  exact eligible

end Phases

/-! What the repair loops keep when a call of the repair and a placement keep it. -/

section Rounds

variable {P : Problem → Nat → Prop} {demand : DemandId} {maxIterations : Nat}
variable (repaired : ∀ (repair : Repair) (resource : ResourceId) (deficit : Int),
  P repair.problem repair.iterations →
    P (repairResource repair demand resource deficit maxIterations).2.2.problem
      (repairResource repair demand resource deficit maxIterations).2.2.iterations)

include repaired

theorem repairAlong_keeps (need : Int) (resources : List ResourceId) : ∀ (progressed : Bool) (run : Run),
    P run.problem run.iterations →
      P (repairAlong demand need maxIterations resources progressed run).2.problem
        (repairAlong demand need maxIterations resources progressed run).2.iterations := by
  induction resources with
  | nil =>
      intro progressed run held
      exact held
  | cons resource rest ih =>
      intro progressed run held
      rw [repairAlong]
      cases run.problem.resources.find? resource with
      | none => exact ih progressed run held
      | some state =>
          dsimp only
          split
          · exact held
          · apply ih
            exact repaired ⟨run.problem, run.iterations⟩ resource _ held

theorem repairPaths_keeps (need : Int) (paths : List PathId) : ∀ run : Run, P run.problem run.iterations →
    P (repairPaths demand need maxIterations paths run).2.problem
      (repairPaths demand need maxIterations paths run).2.iterations := by
  induction paths with
  | nil =>
      intro run held
      exact held
  | cons path rest ih =>
      intro run held
      have along := repairAlong_keeps repaired need (run.problem.pathOf path).resources false run held
      rw [repairPaths]
      dsimp only
      split
      · exact along
      · exact ih _ along

theorem repairRounds_keeps {preferred : List PathId} (placed : ∀ (problem : Problem) (need : Int)
      (iterations : Nat), P problem iterations → P (place problem demand preferred need).2 iterations)
    (rounds : Nat) : ∀ run : Run, P run.problem run.iterations →
      P (repairRounds demand preferred maxIterations rounds run).problem
        (repairRounds demand preferred maxIterations rounds run).iterations := by
  induction rounds with
  | zero =>
      intro run held
      exact held
  | succ rounds ih =>
      intro run held
      rw [repairRounds]
      dsimp only
      split
      · have along := repairPaths_keeps repaired ((run.problem.demandOf demand).derivation.floor -
          (run.problem.demandOf demand).granted) preferred run held
        split
        · exact along
        · apply ih
          exact placed _ _ _ along
      · exact held

end Rounds

/-- Whether a step that skips excluded demands touches the demand. -/
theorem Problem.Safe.admitted_of_exclusion {problem : Problem}
    (safe : problem.Safe snapshot permille) (accepted : Accepted snapshot) {demand : Demand}
    (member : demand ∈ snapshot.demands)
    (included : (!(problem.demandOf demand.id).exclusion.isEmpty) ≠ true) :
    Admitted snapshot demand := by
  obtain ⟨state, -, current, -, exclusion⟩ := safe.demand_state accepted member
  rw [current, exclusion] at included
  simpa [Admitted] using included

include accepted in
theorem placeMinimum_safe {run : Run} (safe : run.problem.Safe snapshot permille)
    (options : SolveOptions) {demand : Demand} (member : demand ∈ snapshot.demands) :
    (placeMinimum options run demand.id).problem.Safe snapshot permille := by
  unfold placeMinimum
  dsimp only
  split
  · exact safe
  · rename_i included
    have admitted := safe.admitted_of_exclusion accepted member included
    have eligible := safe.mem_orderPaths accepted member options
    refine repairRounds_keeps (P := fun problem _ => problem.Safe snapshot permille) ?_ ?_ 4 _
      (safe.place accepted member admitted eligible _)
    · intro repair resource deficit held
      exact (repairResource_spec accepted held demand.id resource deficit options.maxIterations).1
    · intro problem need _ held
      exact held.place accepted member admitted eligible need

include accepted in
theorem runMinimums_safe (options : SolveOptions) {order : List DemandId}
    (known : ∀ id ∈ order, ∃ demand ∈ snapshot.demands, demand.id = id) {run : Run}
    (safe : run.problem.Safe snapshot permille) :
    (runMinimums options order run).problem.Safe snapshot permille := by
  unfold runMinimums
  induction order generalizing run with
  | nil => exact safe
  | cons id rest ih =>
      obtain ⟨demand, member, rfl⟩ := known id List.mem_cons_self
      apply ih (fun other inside => known other (List.mem_cons_of_mem _ inside))
      exact placeMinimum_safe accepted safe options member

include accepted in
theorem fillOne_safe {problem : Problem} (safe : problem.Safe snapshot permille)
    (options : SolveOptions) {demand : Demand} (member : demand ∈ snapshot.demands) :
    (fillOne options problem demand.id).Safe snapshot permille := by
  unfold fillOne
  dsimp only
  split
  · exact safe
  · rename_i included
    split
    · exact safe
    · exact safe.place accepted member (safe.admitted_of_exclusion accepted member included)
        (safe.mem_orderPaths accepted member options) _

include accepted in
theorem consolidateOne_safe {problem : Problem} (safe : problem.Safe snapshot permille)
    (options : SolveOptions) {demand : Demand} (member : demand ∈ snapshot.demands) :
    (consolidateOne options problem demand.id).Safe snapshot permille := by
  unfold consolidateOne
  split
  · exact safe
  · obtain ⟨state, found, -, derived, -⟩ := safe.demand_state accepted member
    refine (consolidatePaths_spec accepted safe found ?_).1
    rw [derived]
    exact safe.mem_orderPaths accepted member options

/-- A fold over known demands keeps what each step keeps. -/
theorem foldl_safe {step : Problem → DemandId → Problem}
    (keeps : ∀ problem : Problem, problem.Safe snapshot permille → ∀ demand ∈ snapshot.demands,
      (step problem demand.id).Safe snapshot permille) {order : List DemandId}
    (known : ∀ id ∈ order, ∃ demand ∈ snapshot.demands, demand.id = id) {problem : Problem}
    (safe : problem.Safe snapshot permille) : (order.foldl step problem).Safe snapshot permille := by
  induction order generalizing problem with
  | nil => exact safe
  | cons id rest ih =>
      obtain ⟨demand, member, rfl⟩ := known id List.mem_cons_self
      apply ih (fun other inside => known other (List.mem_cons_of_mem _ inside))
      exact keeps problem safe demand member

/-- Regrouping by tenant invents no demand. -/
theorem mem_fairOrder {problem : Problem} {order : List DemandId} {id : DemandId}
    (member : id ∈ fairOrder problem order) : id ∈ order := by
  have grouped : ∀ (ids : List DemandId) (groups : OrdMap Text (List DemandId)) (tenant : Text)
      (group : List DemandId), (ids.foldl (fun groups demand =>
        let tenant := (problem.demandOf demand).derivation.tenant.str
        groups.insert tenant ((groups.find? tenant).getD [] ++ [demand])) groups).find? tenant =
        some group → ∀ other ∈ group, other ∈ ids ∨
          ∃ before, groups.find? tenant = some before ∧ other ∈ before := by
    intro ids
    induction ids with
    | nil =>
        intro groups tenant group found other inside
        exact Or.inr ⟨group, found, inside⟩
    | cons first rest ih =>
        intro groups tenant group found other inside
        rw [List.foldl_cons] at found
        rcases ih _ tenant group found other inside with later | ⟨before, present, held⟩
        · exact Or.inl (List.mem_cons_of_mem _ later)
        · dsimp only at present
          rw [OrdMap.find?_insert] at present
          split at present
          · rename_i same
            cases present
            rcases List.mem_append.mp held with old | new
            · cases existing : groups.find? (problem.demandOf first).derivation.tenant.str with
              | none =>
                  rw [existing] at old
                  cases old
              | some earlier =>
                  rw [existing] at old
                  exact Or.inr ⟨earlier, same ▸ existing, old⟩
            · rw [List.mem_singleton] at new
              exact Or.inl (new ▸ List.mem_cons_self)
          · exact Or.inr ⟨before, present, held⟩
  unfold fairOrder at member
  dsimp only at member
  rw [List.mem_flatMap] at member
  obtain ⟨round, -, listed⟩ := member
  rw [List.mem_filterMap] at listed
  obtain ⟨group, present, taken⟩ := listed
  have found := (OrdMap.mem_entries_iff _ group.1 group.2).mp present
  rcases grouped order OrdMap.empty group.1 group.2 found id (List.mem_of_getElem? taken) with
    inside | ⟨before, absurdFound, -⟩
  · exact inside
  · cases absurdFound

/-! Ceilings. -/

theorem tightestCeiling_range (problem : Problem) (probes : Nat) : ∀ low high best : Int,
    tightestCeiling problem probes low high best = best ∨
      (low ≤ tightestCeiling problem probes low high best ∧
        tightestCeiling problem probes low high best ≤ high) := by
  induction probes with
  | zero =>
      intro low high best
      exact Or.inl rfl
  | succ probes ih =>
      intro low high best
      rw [tightestCeiling]
      by_cases open_ : low ≤ high
      · rw [if_pos open_]
        have half : (high - low).tdiv 2 = (high - low) / 2 :=
          Int.tdiv_eq_ediv_of_nonneg (by omega)
        dsimp only
        rw [half]
        generalize middle : low + (high - low) / 2 = mid
        split
        · exact Or.inl rfl
        · split
          · split
            · exact Or.inr (by omega)
            · have below := ih low (mid - 1) mid
              omega
          · have above := ih (mid + 1) high best
            omega
      · rw [if_neg open_]
        exact Or.inl rfl

theorem widenCeiling_range (snapshot : FabricSnapshot) (derived : Derivation) (options : SolveOptions)
    (order : List DemandId)
    (probes : Nat) : ∀ (low high best : Int) (iterations : Nat) (notes : List Text),
    let result := widenCeiling snapshot derived options order probes low high best iterations notes
    result.1 = best ∨ (low ≤ result.1 ∧ result.1 ≤ high) := by
  induction probes with
  | zero =>
      intro low high best iterations notes
      exact Or.inl rfl
  | succ probes ih =>
      intro low high best iterations notes
      dsimp only
      rw [widenCeiling]
      by_cases open_ : low ≤ high
      · rw [if_pos open_]
        have half : (high - low).tdiv 2 = (high - low) / 2 :=
          Int.tdiv_eq_ediv_of_nonneg (by omega)
        dsimp only
        rw [half]
        generalize middle : low + (high - low) / 2 = mid
        generalize runMinimums options order _ = trial
        split
        · split
          · exact Or.inr (by dsimp only; omega)
          · have below := ih low (mid - 1) mid trial.iterations trial.notes
            dsimp only at below
            omega
        · have above := ih (mid + 1) high best trial.iterations trial.notes
          dsimp only at above
          omega
      · rw [if_neg open_]
        exact Or.inl rfl

include accepted in
theorem constructMinimums_safe (options : SolveOptions) {ceiling : Int} (nonneg : 0 ≤ ceiling)
    (bounded : ceiling ≤ snapshot.policy.maxUtilizationPermille) :
    let minimums := constructMinimums snapshot (derivation snapshot) options ceiling
    minimums.run.problem.Safe snapshot minimums.ceiling ∧ 0 ≤ minimums.ceiling ∧
      minimums.ceiling ≤ snapshot.policy.maxUtilizationPermille := by
  have runs : ∀ permille iterations notes, (runMinimums options
      (canonicalProcessingOrder (derivation snapshot))
      ⟨setCeiling (makeProblem snapshot (derivation snapshot)) permille, iterations,
        notes⟩).problem.Safe snapshot permille := by
    intro permille iterations notes
    exact runMinimums_safe accepted options (fun _ => mem_processingOrder) (fresh_safe accepted permille)
  unfold constructMinimums
  dsimp only
  split
  · rename_i widened
    have range := widenCeiling_range snapshot (derivation snapshot) options
      (canonicalProcessingOrder (derivation snapshot)) Limits.maxMaxUtilizationProbes (ceiling + 1)
      snapshot.policy.maxUtilizationPermille 0
    refine ⟨runs _ _ _, ?_, ?_⟩
    · dsimp only
      split
      · omega
      · rename_i nonzero
        rcases range _ _ with zero | found
        · exact absurd zero nonzero
        · exact le_trans (by omega) found.1
    · dsimp only
      split
      · exact le_refl _
      · rename_i nonzero
        rcases range _ _ with zero | found
        · exact absurd zero nonzero
        · exact found.2
  · exact ⟨runs ceiling 0 [], nonneg, bounded⟩

include accepted in
theorem fillTargets_safe (options : SolveOptions) {problem : Problem}
    (safe : problem.Safe snapshot permille) :
    (fillTargets options (canonicalProcessingOrder (derivation snapshot)) problem).Safe
      snapshot permille := by
  unfold fillTargets
  apply foldl_safe _ _ safe
  · intro problem safe demand member
    exact fillOne_safe accepted safe options member
  · intro id member
    split at member
    · exact mem_processingOrder (mem_fairOrder member)
    · exact mem_processingOrder member

include accepted in
theorem consolidateAll_safe (options : SolveOptions) {problem : Problem}
    (safe : problem.Safe snapshot permille) :
    (consolidateAll options (canonicalProcessingOrder (derivation snapshot)) problem).Safe
      snapshot permille := by
  unfold consolidateAll
  split
  · apply foldl_safe _ (fun _ => mem_processingOrder) safe
    intro problem safe demand member
    exact consolidateOne_safe accepted safe options member
  · exact safe

include accepted in
/-- The finished problem is safe under the ceiling its minimums were placed with. -/
theorem constructed_safe_at (options : SolveOptions) {ceiling : Int} (nonneg : 0 ≤ ceiling)
    (bounded : ceiling ≤ snapshot.policy.maxUtilizationPermille) :
    (constructed snapshot (derivation snapshot) options ceiling).Safe snapshot
      (constructMinimums snapshot (derivation snapshot) options ceiling).ceiling :=
  consolidateAll_safe accepted options (fillTargets_safe accepted options
    (constructMinimums_safe accepted options nonneg bounded).1)

include accepted in
/-- The finished problem is safe under a ceiling no wider than the policy cap. -/
theorem constructed_safe (options : SolveOptions) {ceiling : Int} (nonneg : 0 ≤ ceiling)
    (bounded : ceiling ≤ snapshot.policy.maxUtilizationPermille) :
    ∃ permille, 0 ≤ permille ∧ permille ≤ snapshot.policy.maxUtilizationPermille ∧
      (constructed snapshot (derivation snapshot) options ceiling).Safe snapshot permille := by
  obtain ⟨-, low, high⟩ := constructMinimums_safe accepted options nonneg bounded
  exact ⟨_, low, high, constructed_safe_at accepted options nonneg bounded⟩

end TrafficFabric
