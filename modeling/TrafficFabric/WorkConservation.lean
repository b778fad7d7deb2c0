import TrafficFabric.SolverVerdicts

set_option autoImplicit false

/- Nothing is left over. A demand that is filled up to its target or against full paths stays so: later
fills only add load. Both orders of the fill reach every active demand. -/
namespace TrafficFabric

/-- Some resource of the path has no room left. -/
def Problem.Blocked (problem : Problem) (path : PathId) : Prop :=
  ∃ id ∈ (problem.pathOf path).resources, ∃ resource,
    problem.resources.find? id = some resource ∧ resource.ceiling ≤ resource.allocated

/-- No resource loses load, no demand loses bandwidth, and nothing else changes. -/
structure Problem.Rises (before after : Problem) : Prop where
  paths : after.paths = before.paths
  resources : ∀ id resource, before.resources.find? id = some resource → ∃ next,
    after.resources.find? id = some next ∧ next.ceiling = resource.ceiling ∧
      resource.allocated ≤ next.allocated
  demands : ∀ id state, before.demands.find? id = some state → ∃ next,
    after.demands.find? id = some next ∧ next.fixed = state.fixed ∧ state.granted ≤ next.granted

theorem Problem.Rises.refl (problem : Problem) : problem.Rises problem :=
  ⟨rfl, fun _ resource found => ⟨resource, found, rfl, le_refl _⟩,
    fun _ state found => ⟨state, found, rfl, le_refl _⟩⟩

theorem Problem.Rises.trans {first second third : Problem} (early : first.Rises second)
    (late : second.Rises third) : first.Rises third := by
  refine ⟨late.paths.trans early.paths, ?_, ?_⟩
  · intro id resource found
    obtain ⟨next, present, ceiling, more⟩ := early.resources id resource found
    obtain ⟨last, final, same, most⟩ := late.resources id next present
    exact ⟨last, final, same.trans ceiling, more.trans most⟩
  · intro id state found
    obtain ⟨next, present, fixed, more⟩ := early.demands id state found
    obtain ⟨last, final, same, most⟩ := late.demands id next present
    exact ⟨last, final, same.trans fixed, more.trans most⟩

theorem Problem.Rises.same_pathOf {before after : Problem} (rises : before.Rises after) :
    after.pathOf = before.pathOf := by
  funext path
  rw [Problem.pathOf, Problem.pathOf, rises.paths]

theorem Problem.Blocked.rises {before after : Problem} {path : PathId} (blocked : before.Blocked path)
    (rises : before.Rises after) : after.Blocked path := by
  obtain ⟨id, used, resource, found, full⟩ := blocked
  obtain ⟨next, present, ceiling, more⟩ := rises.resources id resource found
  exact ⟨id, by rw [rises.same_pathOf]; exact used, next, present, by omega⟩

/-! One path. -/

/-- Where there is no headroom, some resource is full; and taking all the headroom fills one. -/
theorem headroomAlong_tight (resources : OrdMap ResourceId ResourceState)
    (ids : List ResourceId) (best : Int)
    (positive : 0 < best) (known : ∀ id ∈ ids, ∃ resource, resources.find? id = some resource ∧
      resource.ceiling - resource.allocated < kInfinite) (finite : ids ≠ [] ∨ best ≠ kInfinite) :
    (0 < headroomAlong resources ids best ∧ headroomAlong resources ids best = best) ∨
      ∃ id ∈ ids, ∃ resource, resources.find? id = some resource ∧
        resource.ceiling - resource.allocated ≤ headroomAlong resources ids best := by
  induction ids generalizing best with
  | nil =>
      have bounded : best ≠ kInfinite := finite.resolve_left fun some_ => some_ rfl
      simp only [headroomAlong, if_neg bounded]
      exact Or.inl ⟨positive, trivial⟩
  | cons id rest ih =>
      obtain ⟨⟨resource, found, small⟩, later⟩ := List.forall_mem_cons.mp known
      simp only [headroomAlong, found]
      generalize smaller : (if resource.ceiling - resource.allocated < best then
        resource.ceiling - resource.allocated else best) = lower
      by_cases exhausted : lower ≤ 0
      · rw [if_pos exhausted]
        right
        refine ⟨id, List.mem_cons_self, resource, found, ?_⟩
        split at smaller <;> omega
      · rw [if_neg exhausted]
        rcases ih lower (by omega) later (Or.inr (by split at smaller <;> omega)) with
          ⟨open_, same⟩ | ⟨other, inside, tight⟩
        · by_cases lowered : resource.ceiling - resource.allocated < best
          · rw [if_pos lowered] at smaller
            right
            exact ⟨id, List.mem_cons_self, resource, found, by omega⟩
          · rw [if_neg lowered] at smaller
            left
            exact ⟨open_, same.trans smaller.symm⟩
        · right
          exact ⟨other, List.mem_cons_of_mem _ inside, tight⟩

section Moves

variable {snapshot : FabricSnapshot} {permille : Int} (accepted : Accepted snapshot)

include accepted

/-- The headroom of a path is all that its tightest resource has left. -/
theorem pathHeadroom_tight {problem : Problem} (consistent : problem.Consistent snapshot permille)
    {path : PathFacts} (candidate : path ∈ planningPaths snapshot) :
    ∃ id ∈ path.resources, ∃ resource, problem.resources.find? id = some resource ∧
      resource.ceiling - resource.allocated ≤ pathHeadroom problem path := by
  obtain ⟨-, present, -, listed⟩ := planningPath_resources accepted candidate
  have infinite : Limits.maxBandwidth < kInfinite := by decide
  have known : ∀ id ∈ path.resources, ∃ resource, problem.resources.find? id = some resource ∧
      resource.ceiling - resource.allocated < kInfinite := by
    intro id used
    obtain ⟨resource, found⟩ := consistent.built.resource_known accepted (listed id used)
    have ceiling := consistent.ceiling_le accepted found
    have load := consistent.loads id resource found
    have nonneg := consistent.load_nonneg id
    exact ⟨resource, found, by omega⟩
  rcases headroomAlong_tight problem.resources path.resources kInfinite (by decide) known
    (Or.inl present) with
    ⟨open_, unbounded⟩ | tight
  · -- The infinite bandwidth is no headroom.
    exfalso
    obtain ⟨bound, within⟩ := headroomAlong_spec problem.resources path.resources kInfinite open_
    obtain ⟨id, used⟩ := List.exists_mem_of_ne_nil _ present
    obtain ⟨resource, found, small⟩ := known id used
    obtain ⟨other, present, room⟩ := within id used
    rw [found, Option.some.injEq] at present
    subst present
    omega
  · exact tight

theorem grant_rises {problem : Problem} (consistent : problem.Consistent snapshot permille)
    {demand : DemandId}
    {state : DemandState} {path : PathFacts} {amount : Int}
    (found : problem.demands.find? demand = some state)
    (candidate : path ∈ planningPaths snapshot) (eligible : path.id ∈ state.derivation.eligiblePaths)
    (included : state.exclusion = []) (positive : 0 < amount) (room : amount ≤ pathHeadroom problem path)
    (fits : state.granted + amount ≤ int64Max) :
    problem.Rises (grant problem demand path amount) ∧ ∀ id ∈ path.resources, ∀ resource,
      problem.resources.find? id = some resource → ∃ next,
        (grant problem demand path amount).resources.find? id = some next ∧
          next.ceiling = resource.ceiling ∧ next.allocated = resource.allocated + amount := by
  have distinct : path.resources.Nodup := (planningPath_resources accepted candidate).1.imp ne_of_lt
  obtain ⟨-, shifts⟩ := grant_spec consistent accepted found candidate eligible included positive room fits
  have headroom := (headroomAlong_spec problem.resources path.resources kInfinite
    (by unfold pathHeadroom at room; omega)).2
  have limit : Limits.maxBandwidth ≤ int64Max := by decide
  have lookup : ∀ id, (grant problem demand path amount).resources.find? id =
      if id ∈ path.resources then (problem.resources.find? id).map fun resource =>
        { resource with allocated := satAdd resource.allocated amount }
          else problem.resources.find? id := by
    intro id
    unfold grant consume
    rw [if_neg (by omega)]
    exact OrdMap.find?_foldl_modify _ path.resources distinct problem.resources id
  have exact : ∀ id ∈ path.resources, ∀ resource, problem.resources.find? id = some resource →
      satAdd resource.allocated amount = resource.allocated + amount := by
    intro id used resource present
    obtain ⟨other, otherPresent, bound⟩ := headroom id used
    rw [present, Option.some.injEq] at otherPresent
    subst otherPresent
    have ceiling := consistent.ceiling_le accepted present
    change pathHeadroom problem path ≤ _ at bound
    exact satAdd_exact (by omega) (by omega)
  constructor
  · refine ⟨?_, ?_, ?_⟩
    · unfold grant
      rw [if_neg (by omega)]
    · intro id resource present
      rw [lookup id]
      by_cases used : id ∈ path.resources
      · rw [if_pos used, present]
        refine ⟨_, rfl, rfl, ?_⟩
        dsimp only
        rw [exact id used resource present]
        omega
      · rw [if_neg used]
        exact ⟨resource, present, rfl, le_refl _⟩
    · intro id other present
      by_cases same : id = demand
      · subst same
        rw [found, Option.some.injEq] at present
        subst present
        obtain ⟨next, after, moved⟩ := shifts.moved state found
        exact ⟨next, after, moved.fixed, by rw [moved.granted]; omega⟩
      · rw [shifts.others id same]
        exact ⟨other, present, rfl, le_refl _⟩
  · intro id used resource present
    rw [lookup id, if_pos used, present]
    exact ⟨_, rfl, rfl, exact id used resource present⟩

/-! Filling a demand. -/

theorem placeAlong_fills {demand : DemandId} {need : Int} (small : need ≤ int64Max) (order : List PathId) :
    ∀ (placed : Int) (problem : Problem) (state : DemandState), problem.Consistent snapshot permille →
      problem.demands.find? demand = some state → (∀ path ∈ order, path ∈ state.derivation.eligiblePaths) →
      state.exclusion = [] → 0 ≤ placed → placed ≤ need → state.granted + (need - placed) ≤ int64Max →
      let result := placeAlong demand need order placed problem
      problem.Rises result.2 ∧ (need ≤ result.1 ∨ ∀ path ∈ order, result.2.Blocked path) := by
  induction order with
  | nil =>
      intro placed problem state _ _ _ _ _ _ _
      exact ⟨Problem.Rises.refl problem, Or.inr fun path member => absurd member List.not_mem_nil⟩
  | cons path rest ih =>
      intro placed problem state consistent found eligible included nonneg below fits
      have later : ∀ other ∈ rest, other ∈ state.derivation.eligiblePaths := fun other member =>
        eligible other (List.mem_cons_of_mem _ member)
      obtain ⟨candidate, named⟩ := consistent.eligible_candidate accepted found
        (eligible path List.mem_cons_self)
      obtain ⟨id, used, resource, present, tight⟩ := pathHeadroom_tight accepted consistent candidate
      simp only [placeAlong]
      by_cases enough : need ≤ placed
      · rw [if_pos enough]
        exact ⟨Problem.Rises.refl problem, Or.inl enough⟩
      rw [if_neg enough]
      by_cases full : pathHeadroom problem (problem.pathOf path) ≤ 0
      · rw [if_pos full]
        obtain ⟨rises, outcome⟩ := ih placed problem state consistent found later included nonneg below fits
        have blocked : problem.Blocked path := ⟨id, used, resource, present, by omega⟩
        exact ⟨rises, outcome.imp_right fun others => List.forall_mem_cons.mpr
          ⟨blocked.rises rises, others⟩⟩
      · rw [if_neg full]
        generalize amount : min (pathHeadroom problem (problem.pathOf path)) (need - placed) = take
        have eligiblePath : (problem.pathOf path).id ∈ state.derivation.eligiblePaths := by
          rw [named]
          exact eligible path List.mem_cons_self
        obtain ⟨grantedConsistent, shifts⟩ := grant_spec consistent accepted found candidate eligiblePath
          included (by omega : 0 < take) (by omega) (by omega)
        obtain ⟨up, taken⟩ := grant_rises accepted consistent found candidate eligiblePath included
          (by omega : 0 < take) (by omega) (by omega)
        obtain ⟨next, after, moved⟩ := shifts.moved state found
        have kept := DemandState.fixed_parts moved.fixed
        have limit := moved.granted
        rw [satAdd_exact (by omega) (by omega)]
        obtain ⟨rises, outcome⟩ := ih (placed + take) (grant problem demand (problem.pathOf path) take) next
          grantedConsistent after (by rw [kept.1]; exact later)
            (by rw [kept.2.2]; exact included) (by omega)
          (by omega) (by omega)
        refine ⟨up.trans rises, ?_⟩
        by_cases satisfied : need ≤ placed + take
        · -- Nothing is left to place, and what is placed stays placed.
          have still : placed + take ≤ (placeAlong demand need rest (placed + take)
              (grant problem demand (problem.pathOf path) take)).1 :=
            (placeAlong_spec accepted small rest (placed + take) _ next grantedConsistent after
              (by rw [kept.1]; exact later) (by rw [kept.2.2]; exact included) (by omega) (by omega)
              (by omega)).2.2.1
          exact Or.inl (by omega)
        · -- All the headroom was taken, so the tightest resource of the path is full now.
          obtain ⟨filled, final, ceiling, allocated⟩ := taken id used resource present
          have blocked : (grant problem demand (problem.pathOf path) take).Blocked path :=
            ⟨id, by rw [up.same_pathOf]; exact used, filled, final, by omega⟩
          exact outcome.imp_right fun others => List.forall_mem_cons.mpr ⟨blocked.rises rises, others⟩

/-- The demand has what it is to have, or no path of it has room. -/
def Problem.Filled (problem : Problem) (demand : DemandDerivation) : Prop :=
  min demand.desired demand.maximum ≤ (problem.demandOf demand.demand).granted ∨
    ∀ path ∈ demand.eligiblePaths, problem.Blocked path

theorem place_fills {problem : Problem} (safe : problem.Safe snapshot permille) {demand : Demand}
    (member : demand ∈ snapshot.demands) (admitted : Admitted snapshot demand) {order : List PathId}
    (covers : ∀ path, path ∈ order ↔ path ∈ (derivedDemand snapshot demand).eligiblePaths) {target : Int}
    (most : target ≤ (derivedDemand snapshot demand).maximum)
    (short : (problem.demandOf demand.id).granted < target) :
    let result := (place problem demand.id order (target - (problem.demandOf demand.id).granted)).2
    problem.Rises result ∧ (target ≤ (result.demandOf demand.id).granted ∨
      ∀ path ∈ (derivedDemand snapshot demand).eligiblePaths, result.Blocked path) := by
  obtain ⟨state, found, current, derived, exclusion⟩ := safe.demand_state accepted member
  have maximum := safe.consistent.maximum_le accepted found
  have nonneg := safe.consistent.granted_nonneg found
  have limit : Limits.maxBandwidth ≤ int64Max := by decide
  have eligible : ∀ path ∈ order, path ∈ state.derivation.eligiblePaths := by
    intro path ordered
    rw [derived]
    exact (covers path).mp ordered
  rw [current] at short ⊢
  rw [derived] at maximum
  unfold place
  rw [current]
  dsimp only
  rw [derived, if_neg (by omega), if_neg (by omega)]
  obtain ⟨rises, outcome⟩ :=
    placeAlong_fills accepted (by omega : target - state.granted ≤ int64Max) order 0
    problem state safe.consistent found eligible (exclusion.trans admitted) (le_refl 0)
      (by omega) (by omega)
  obtain ⟨-, grows, -, -⟩ := placeAlong_spec accepted (by omega : target - state.granted ≤ int64Max) order 0
    problem state safe.consistent found eligible (exclusion.trans admitted) (le_refl 0)
      (by omega) (by omega)
  refine ⟨rises, ?_⟩
  rcases outcome with enough | blocked
  · left
    obtain ⟨next, present, -, granted, -⟩ := grows.own state found
    rw [Problem.demandOf, present, Option.getD_some]
    omega
  · exact Or.inr fun path listed => blocked path ((covers path).mpr listed)

theorem fillOne_fills {problem : Problem} (safe : problem.Safe snapshot permille) (options : SolveOptions)
    {demand : Demand} (member : demand ∈ snapshot.demands) :
    problem.Rises (fillOne options problem demand.id) ∧ (Admitted snapshot demand →
      (fillOne options problem demand.id).Filled (derivedDemand snapshot demand)) := by
  obtain ⟨state, found, current, derived, exclusion⟩ := safe.demand_state accepted member
  have covers : ∀ path, path ∈ orderPaths problem demand.id options ↔
      path ∈ (derivedDemand snapshot demand).eligiblePaths := by
    intro path
    unfold orderPaths
    rw [mem_stableSort, current, derived]
  unfold fillOne Problem.Filled
  dsimp only
  rw [derivedDemand_demand]
  by_cases admitted : Admitted snapshot demand
  · have included : (!(problem.demandOf demand.id).exclusion.isEmpty) = false := by
      rw [current, exclusion, admitted]
      rfl
    rw [included, current, derived]
    by_cases enough : min (derivedDemand snapshot demand).desired (derivedDemand snapshot demand).maximum ≤
        state.granted
    · simp only [Bool.false_eq_true, ↓reduceIte, if_pos enough]
      exact ⟨Problem.Rises.refl problem, fun _ => Or.inl (by rw [current]; exact enough)⟩
    · simp only [Bool.false_eq_true, ↓reduceIte, if_neg enough]
      obtain ⟨rises, filled⟩ := place_fills accepted safe member admitted covers
        (min_le_right (derivedDemand snapshot demand).desired _)
        (by rw [current]; omega)
      rw [current] at rises filled
      exact ⟨rises, fun _ => filled⟩
  · have excluded : (!(problem.demandOf demand.id).exclusion.isEmpty) = true := by
      rw [current, exclusion]
      simpa [Admitted] using admitted
    rw [if_pos excluded]
    exact ⟨Problem.Rises.refl problem, fun permitted => absurd permitted admitted⟩

/-- A filled demand stays filled. -/
theorem Problem.Filled.rises {before after : Problem}
    (safe : before.Safe snapshot permille) {demand : Demand}
    (member : demand ∈ snapshot.demands) (filled : before.Filled (derivedDemand snapshot demand))
    (rises : before.Rises after) : after.Filled (derivedDemand snapshot demand) := by
  obtain ⟨state, found, current, -, -⟩ := safe.demand_state accepted member
  rcases filled with enough | blocked
  · left
    obtain ⟨next, present, -, more⟩ := rises.demands demand.id state found
    rw [derivedDemand_demand] at enough ⊢
    rw [current] at enough
    rw [Problem.demandOf, present, Option.getD_some]
    omega
  · exact Or.inr fun path listed => (blocked path listed).rises rises

/-- Every demand of the sequence ends up filled. -/
theorem foldl_fillOne_fills (options : SolveOptions) (sequence : List DemandId) : ∀ {problem : Problem},
    problem.Safe snapshot permille → (∀ id ∈ sequence, ∃ demand ∈ snapshot.demands, demand.id = id) →
    problem.Rises (sequence.foldl (fillOne options) problem) ∧
      ∀ demand ∈ snapshot.demands, demand.id ∈ sequence → Admitted snapshot demand →
        (sequence.foldl (fillOne options) problem).Filled (derivedDemand snapshot demand) := by
  induction sequence with
  | nil =>
      intro problem _ _
      exact ⟨Problem.Rises.refl problem, fun demand _ listed => absurd listed List.not_mem_nil⟩
  | cons first rest ih =>
      intro problem safe known
      obtain ⟨⟨source, inside, rfl⟩, later⟩ := List.forall_mem_cons.mp known
      obtain ⟨rises, filled⟩ := fillOne_fills accepted safe options inside
      have next := fillOne_safe accepted safe options inside
      obtain ⟨more, others⟩ := ih next later
      rw [List.foldl_cons]
      refine ⟨rises.trans more, ?_⟩
      intro demand member listed admitted
      rcases List.mem_cons.mp listed with same | after
      · have equal : demand = source := List.inj_on_of_nodup_map accepted.demand_checks.2 member inside same
        subst equal
        exact (filled admitted).rises accepted next member more
      · exact others demand member after admitted

end Moves

/-! Both orders reach everyone. -/

/-- The groups of the round-robin, as they are collected. -/
theorem grouped_find (tenantOf : DemandId → Text) (ids : List DemandId)
    (groups : OrdMap Text (List DemandId))
    (tenant : Text) :
    ((ids.foldl (fun groups demand => groups.insert (tenantOf demand)
        ((groups.find? (tenantOf demand)).getD [] ++ [demand])) groups).find? tenant).getD [] =
      (groups.find? tenant).getD [] ++ ids.filter fun demand => decide (tenantOf demand = tenant) := by
  induction ids generalizing groups with
  | nil => simp
  | cons first rest ih =>
      rw [List.foldl_cons, ih, OrdMap.find?_insert]
      by_cases same : tenantOf first = tenant
      · subst same
        simp
      · simp [same, Ne.symm same]

/-- The round-robin skips no demand. -/
theorem fairOrder_covers (problem : Problem) {order : List DemandId} {id : DemandId} (member : id ∈ order) :
    id ∈ fairOrder problem order := by
  have collected := grouped_find (fun demand => (problem.demandOf demand).derivation.tenant.str) order
    OrdMap.empty (problem.demandOf id).derivation.tenant.str
  unfold fairOrder
  dsimp only
  generalize (order.foldl
    (fun groups demand => groups.insert (problem.demandOf demand).derivation.tenant.str
    ((groups.find? (problem.demandOf demand).derivation.tenant.str).getD [] ++ [demand])) OrdMap.empty) =
      groups at collected ⊢
  have grouped : id ∈ (groups.find? (problem.demandOf id).derivation.tenant.str).getD [] := by
    rw [collected]
    simp [member]
  cases found : groups.find? (problem.demandOf id).derivation.tenant.str with
  | none =>
      rw [found] at grouped
      cases grouped
  | some group =>
      rw [found, Option.getD_some] at grouped
      obtain ⟨round, taken⟩ := List.mem_iff_getElem?.mp grouped
      have entry := (OrdMap.mem_entries_iff _ _ _).mpr found
      have inside := (List.getElem?_eq_some_iff.mp taken).1
      have rounds : group.length ≤ groups.entries.foldl (fun most group => max most group.2.length) 0 :=
        (le_foldl_max (fun group : Text × List DemandId => group.2.length) groups.entries 0).2 _ entry
      rw [List.mem_flatMap]
      refine ⟨round, List.mem_range.mpr (by omega), ?_⟩
      rw [List.mem_filterMap]
      exact ⟨_, entry, taken⟩

theorem processingOrder_covers {snapshot : FabricSnapshot} {demand : Demand}
    (member : demand ∈ snapshot.demands)
    (active : demand.effective.covers snapshot.evaluationTick = true) :
    demand.id ∈ canonicalProcessingOrder (derivation snapshot) := by
  unfold canonicalProcessingOrder
  apply List.mem_map.mpr
  refine ⟨derivedDemand snapshot demand, ?_, derivedDemand_demand snapshot demand⟩
  rw [mem_stableSort, List.mem_filter]
  exact ⟨List.mem_map_of_mem member, by simp [active]⟩

/-! The finished allocation. -/

/-- The utilisation ceiling that is in force when the targets are filled. -/
def finalCeiling (snapshot : FabricSnapshot) (derived : Derivation) (options : SolveOptions) : Int :=
  (constructMinimums snapshot derived options (startingCeiling snapshot derived)).ceiling

/-- The resource carries all that its ceiling admits. -/
def Saturated (snapshot : FabricSnapshot) (derived : Derivation) (permille : Int) (allocation : Allocation)
    (resource : ResourceId) : Prop :=
  ∃ utilization ∈ allocation.resources, utilization.resource = resource ∧
    utilization.allocated = ceilingAt (makeProblem snapshot derived) permille resource

section Conserved

variable {snapshot : FabricSnapshot} (accepted : Accepted snapshot)

include accepted

theorem constructed_fills (options : SolveOptions) {ceiling : Int} (nonneg : 0 ≤ ceiling)
    (bounded : ceiling ≤ snapshot.policy.maxUtilizationPermille)
    (plain : hasTerm snapshot.objective.terms .minimizePathCount = false) {demand : Demand}
    (member : demand ∈ snapshot.demands) (active : demand.effective.covers snapshot.evaluationTick = true)
    (admitted : Admitted snapshot demand) :
    (constructed snapshot (derivation snapshot) options ceiling).Filled
      (derivedDemand snapshot demand) := by
  have safe := (constructMinimums_safe accepted options nonneg bounded).1
  have filled := fillTargets_safe accepted options safe
  unfold constructed consolidateAll
  dsimp only
  rw [filled.consistent.built.terms, plain, if_neg (by decide)]
  unfold fillTargets
  dsimp only
  have listed := processingOrder_covers member active
  have known : ∀ id ∈ canonicalProcessingOrder (derivation snapshot),
      ∃ demand ∈ snapshot.demands, demand.id = id := fun _ => mem_processingOrder
  split
  · exact (foldl_fillOne_fills accepted options _ safe fun id inside => known id (mem_fairOrder inside)).2
      demand member (fairOrder_covers _ listed) admitted
  · exact (foldl_fillOne_fills accepted options _ safe known).2 demand member listed admitted

end Conserved

section Report

variable {snapshot : FabricSnapshot} {permille : Int} (accepted : Accepted snapshot)
variable {problem : Problem} (safe : problem.Safe snapshot permille) (options : SolveOptions)

include accepted safe

/-- A full resource is reported as carrying its whole ceiling. -/
theorem saturated_of_full {id : ResourceId} {resource : ResourceState}
    (found : problem.resources.find? id = some resource) (full : resource.ceiling ≤ resource.allocated)
    (degraded : Bool) : Saturated snapshot (derivation snapshot) permille
      { buildAllocation options problem with degraded := degraded } id := by
  obtain ⟨source, inside, named, -⟩ := safe.consistent.built.resource_of accepted found
  have within := safe.consistent.within id resource found
  have ceiling := safe.consistent.ceilings id resource found
  have value : ceilingAt (makeProblem snapshot (derivation snapshot)) permille id =
      (recomputeCeiling resource permille).ceiling := by
    rw [ceilingAt, ← ceilingsAt_congr safe.consistent.built
      (makeProblem_builtFrom snapshot (derivation snapshot))]
    simp [ceilingsAt, found]
  refine ⟨utilizationOf problem (publishedResidual snapshot source), ?_, named, ?_⟩
  · unfold buildAllocation
    dsimp only
    rw [safe.consistent.built.derivation, derivation, List.map_map]
    exact List.mem_map_of_mem inside
  · have allocated : (utilizationOf problem (publishedResidual snapshot source)).allocated =
      resource.allocated := by
      change ((problem.resources.find? source.id).getD default).allocated = _
      rw [named, found]
      rfl
    rw [allocated, value]
    omega

/-- The demand has one entry, and what the problem gives it is what the entry tells. -/
theorem filled_reported {demand : Demand} (member : demand ∈ snapshot.demands)
    (filled : problem.Filled (derivedDemand snapshot demand)) (degraded : Bool) :
    ∃ entry ∈ (buildAllocation options problem).demands, entry.demand = demand.id ∧
      (∀ other ∈ (buildAllocation options problem).demands, other.demand = demand.id → other = entry) ∧
      (min (derivedDemand snapshot demand).desired (derivedDemand snapshot demand).maximum ≤ entry.granted ∨
        ∀ path ∈ (derivedDemand snapshot demand).eligiblePaths, ∃ facts ∈ planningPaths snapshot,
          facts.id = path ∧ ∃ resource ∈ facts.resources, Saturated snapshot (derivation snapshot) permille
            { buildAllocation options problem with degraded := degraded } resource) := by
  refine ⟨entryOf options problem (derivedDemand snapshot demand),
    (mem_buildAllocation safe options).mpr ⟨demand, member, rfl⟩, by simp [entryOf], ?_, ?_⟩
  · intro other listed named
    obtain ⟨source, inside, rfl⟩ := (mem_buildAllocation safe options).mp listed
    have same : source = demand := by
      apply List.inj_on_of_nodup_map accepted.demand_checks.2 inside member
      simpa [entryOf] using named
    rw [same]
  · rcases filled with enough | blocked
    · left
      simpa [entryOf] using enough
    · right
      intro path eligible
      obtain ⟨facts, candidate, same, found⟩ := safe.consistent.built.eligible_path accepted eligible
      obtain ⟨id, used, resource, present, full⟩ := blocked path eligible
      rw [found] at used
      exact ⟨facts, candidate, same, id, used,
        saturated_of_full accepted safe options present full degraded⟩

end Report

/-- Every active demand that policy admits is listed once, and gets its target unless each of its paths is
saturated. -/
theorem solve_conserves_work {snapshot : FabricSnapshot} {options : SolveOptions} {derived : Derivation}
    {outcome : SolveOutcome} (accepted : Accepted snapshot) (derives : derive snapshot = .ok derived)
    (solved : solve snapshot options = .ok outcome) (constructs : Constructs snapshot derived)
    (plain : hasTerm snapshot.objective.terms .minimizePathCount = false) :
    ∀ demand ∈ snapshot.demands, demand.effective.covers snapshot.evaluationTick = true →
      ¬ PolicyExcludes snapshot.policy demand →
      ∃ entry ∈ outcome.allocation.demands, entry.demand = demand.id ∧
        (∀ other ∈ outcome.allocation.demands, other.demand = demand.id → other = entry) ∧
        (min (derivedDemand snapshot demand).desired (derivedDemand snapshot demand).maximum ≤
          entry.granted ∨
          ∀ path ∈ (derivedDemand snapshot demand).eligiblePaths, ∃ facts ∈ planningPaths snapshot,
            facts.id = path ∧ ∃ resource ∈ facts.resources,
              Saturated snapshot derived
                (finalCeiling snapshot derived options) outcome.allocation resource) := by
  obtain ⟨fits, rfl⟩ := (derive_eq_ok accepted derived).mp derives
  obtain ⟨nonneg, bounded⟩ := startingCeiling_range accepted (derivation snapshot)
  have safe := constructed_safe_at accepted options nonneg bounded
  obtain ⟨degraded, shape⟩ := plan_allocation snapshot (derivation snapshot) options
    (startingCeiling snapshot (derivation snapshot)) (reservationConflict (derivation snapshot))
  rw [(solve_eq_ok derives solved).2, solveDerived_constructs constructs, shape]
  intro demand member active permitted
  have admitted := (admitted_iff accepted active).mpr permitted
  have filled := constructed_fills accepted options nonneg bounded plain member active admitted
  unfold finalCeiling
  generalize (constructMinimums snapshot (derivation snapshot) options
    (startingCeiling snapshot (derivation snapshot))).ceiling = permille at safe ⊢
  generalize constructed snapshot (derivation snapshot) options
    (startingCeiling snapshot (derivation snapshot)) = problem at safe filled ⊢
  exact filled_reported accepted safe options member filled degraded

/-- The first demand of the mesh fabric gets the eighty units it asks for, and the second forty of its
seventy, for both its paths end in a link of forty. -/
theorem solve_conserves_work_meshFabric : ∃ outcome, solve meshFabric {} = .ok outcome ∧
    outcome.allocation.demands.map DemandAllocation.granted = [80, 40] ∧
    ∀ demand ∈ meshFabric.demands, demand.effective.covers meshFabric.evaluationTick = true →
      ¬ PolicyExcludes meshFabric.policy demand →
      ∃ entry ∈ outcome.allocation.demands, entry.demand = demand.id ∧
        (∀ other ∈ outcome.allocation.demands, other.demand = demand.id → other = entry) ∧
        (min (derivedDemand meshFabric demand).desired (derivedDemand meshFabric demand).maximum ≤
          entry.granted ∨
          ∀ path ∈ (derivedDemand meshFabric demand).eligiblePaths, ∃ facts ∈ planningPaths meshFabric,
            facts.id = path ∧ ∃ resource ∈ facts.resources,
              Saturated meshFabric (derivation meshFabric)
                (finalCeiling meshFabric (derivation meshFabric) {})
                outcome.allocation resource) :=
  ⟨_, meshFabric_solved {} (by decide), by decide +kernel,
    solve_conserves_work meshFabric_accepted meshFabric_derives (meshFabric_solved {} (by decide))
      meshFabric_constructs (by decide)⟩

end TrafficFabric
