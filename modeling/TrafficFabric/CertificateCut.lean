import TrafficFabric.CertificateSoundness

set_option autoImplicit false

/- Which resources a shortfall is due to. The demands on the near side of a least cut reach only
resources of the near side, and need more than those give: the near side is the bottleneck. A
certificate reports the far side, whose demands always fit. -/
namespace TrafficFabric

/-- Active demands that can use nothing but the resources and need more than those give. -/
structure Explains (problem : Problem) (permille : Int) (resources : List ResourceId)
    (demands : List DemandDerivation) : Prop where
  active : demands.Sublist (problem.derivation.demands.filter DemandDerivation.active)
  confined : ∀ demand ∈ demands, ∀ path ∈ demand.eligiblePaths,
    ∀ resource ∈ (problem.pathOf path).resources, resource ∈ resources
  short : (resources.map (ceilingAt problem permille)).sum < (demands.map DemandDerivation.floor).sum

/-! A side of the network, node by node. -/

/-- The nodes picked for the demands, the paths and the resources, with the source. -/
def Problem.sideOf (problem : Problem) (demandSide : DemandDerivation → Bool) (pathSide : PathId → Bool)
    (resourceSide : ResourceId → Bool) (node : Nat) : Bool :=
  decide (node = 0) ||
    (routedDemands problem.derivation).any (fun demand =>
      decide (nodeOf problem.nodes.demands demand.demand = node) && demandSide demand) ||
    (usedPaths (routedDemands problem.derivation)).any (fun path =>
      decide (nodeOf problem.nodes.paths path = node) && pathSide path) ||
    problem.resources.keys.any fun resource =>
      decide (nodeOf problem.nodes.resources resource = node) && resourceSide resource

theorem any_at {α : Type} (node : α → Nat) (side : α → Bool) (items : List α)
    (injective : ∀ first ∈ items, ∀ second ∈ items, node first = node second → first = second) {item : α}
    (member : item ∈ items) :
    (items.any fun other => decide (node other = node item) && side other) = side item := by
  rw [Bool.eq_iff_iff, List.any_eq_true]
  constructor
  · rintro ⟨other, inside, both⟩
    rw [Bool.and_eq_true, decide_eq_true_eq] at both
    rw [← injective other inside item member both.1]
    exact both.2
  · intro chosen
    exact ⟨item, member, by simp [chosen]⟩

theorem any_apart {α : Type} (node : α → Nat) (side : α → Bool) (items : List α) {target : Nat}
    (apart : ∀ item ∈ items, node item ≠ target) :
    (items.any fun item => decide (node item = target) && side item) = false := by
  rw [List.any_eq_false]
  intro item member
  simp [apart item member]

section Sides

variable {problem : Problem} {snapshot : FabricSnapshot} (accepted : Accepted snapshot)
variable (built : problem.BuiltFrom snapshot (derivation snapshot))
variable (demandSide : DemandDerivation → Bool) (pathSide : PathId → Bool)
    (resourceSide : ResourceId → Bool)

include accepted built

theorem sideOf_spec :
    problem.sideOf demandSide pathSide resourceSide 0 = true ∧
    problem.sideOf demandSide pathSide resourceSide 1 = false ∧
    (∀ demand ∈ routedDemands problem.derivation, problem.sideOf demandSide pathSide resourceSide
      (nodeOf problem.nodes.demands demand.demand) = demandSide demand) ∧
    (∀ path ∈ usedPaths (routedDemands problem.derivation), problem.sideOf demandSide pathSide resourceSide
      (nodeOf problem.nodes.paths path) = pathSide path) ∧
    ∀ resource ∈ problem.resources.keys, problem.sideOf demandSide pathSide resourceSide
      (nodeOf problem.nodes.resources resource) = resourceSide resource := by
  obtain ⟨demands, paths, blocks, start, below, -⟩ := nodeBlocks accepted built
  have distinct : ((routedDemands problem.derivation).map DemandDerivation.demand).Nodup := by
    rw [built.derivation]
    exact routedDemands_nodup accepted
  refine ⟨by simp [Problem.sideOf], ?_, ?_, ?_, ?_⟩
  · unfold Problem.sideOf
    rw [any_apart, any_apart, any_apart]
    · rfl
    · intro resource member
      have range := blocks.resource resource member
      omega
    · intro path member
      have range := blocks.path path member
      omega
    · intro demand member
      have range := blocks.demand demand member
      omega
  · intro demand member
    have here := blocks.demand demand member
    unfold Problem.sideOf
    rw [any_at (fun other : DemandDerivation => nodeOf problem.nodes.demands other.demand)
      demandSide _ _ member,
      any_apart, any_apart, decide_eq_false (by omega)]
    · simp
    · intro resource inside
      have range := blocks.resource resource inside
      omega
    · intro path inside
      have range := blocks.path path inside
      omega
    · intro first firstMember second secondMember same
      have named := nodeOf_injective 2 distinct (List.mem_map_of_mem firstMember)
        (List.mem_map_of_mem secondMember) same
      exact List.inj_on_of_nodup_map distinct firstMember secondMember named
  · intro path member
    have here := blocks.path path member
    unfold Problem.sideOf
    rw [any_at (nodeOf problem.nodes.paths) pathSide _ _ member, any_apart, any_apart,
      decide_eq_false (by omega)]
    · simp
    · intro resource inside
      have range := blocks.resource resource inside
      omega
    · intro demand inside
      have range := blocks.demand demand inside
      omega
    · intro first firstMember second secondMember same
      exact nodeOf_injective _ (usedPaths_nodup _) firstMember secondMember same
  · intro resource member
    have here := blocks.resource resource member
    unfold Problem.sideOf
    rw [any_at (nodeOf problem.nodes.resources) resourceSide _ _ member, any_apart, any_apart,
      decide_eq_false (by omega)]
    · simp
    · intro path inside
      have range := blocks.path path inside
      omega
    · intro demand inside
      have range := blocks.demand demand inside
      omega
    · intro first firstMember second secondMember same
      exact nodeOf_injective _ problem.resources.keys_nodup firstMember secondMember same

end Sides

/-! The two sides of a measured cut. -/

section Measured

variable {problem : Problem} {permille : Int} {side : Nat → Bool}
    (measured : Measures problem permille side)
variable {snapshot : FabricSnapshot} (accepted : Accepted snapshot)
variable (built : problem.BuiltFrom snapshot (derivation snapshot))

include measured accepted built

/-- No choice of demands, paths and resources cuts less. -/
theorem Measures.least_cut :
    PathPacking.Least (routedDemands problem.derivation) DemandDerivation.eligiblePaths
    (fun path => (problem.pathOf path).resources) (usedPaths (routedDemands problem.derivation))
    problem.resources.keys DemandDerivation.floor (ceilingAt problem permille) kInfinite
    (fun demand => side (nodeOf problem.nodes.demands demand.demand))
    (fun path => side (nodeOf problem.nodes.paths path))
    (fun resource => side (nodeOf problem.nodes.resources resource)) := by
  intro otherDemands otherPaths otherResources
  obtain ⟨source, sink, demands, paths, resources⟩ :=
    sideOf_spec accepted built otherDemands otherPaths otherResources
  have bound := measured.least _ source sink
  rw [sum_crossing_arcs problem permille side measured.source measured.sink,
    sum_crossing_arcs problem permille _ source sink] at bound
  apply bound.trans
  apply le_of_eq
  apply PathPacking.cutCapacity_congr _ _ demands paths resources
  · intro demand routed path eligible
    exact (mem_usedPaths _ path).mpr ⟨demand, routed, eligible⟩
  · intro path used resource inside
    obtain ⟨facts, -, -, same, known⟩ := usedPath_facts accepted built used
    rw [same] at inside
    exact known resource inside

theorem Measures.path_near {demand : DemandDerivation} (routed : demand ∈ routedDemands problem.derivation)
    (near : side (nodeOf problem.nodes.demands demand.demand) = true) {path : PathId}
    (eligible : path ∈ demand.eligiblePaths) : side (nodeOf problem.nodes.paths path) = true := by
  obtain ⟨facts, candidate, -, same, known⟩ :=
    usedPath_facts accepted built ((mem_usedPaths _ path).mpr ⟨demand, routed, eligible⟩)
  obtain ⟨strict, -, count, -⟩ := planningPath_resources accepted candidate
  have limit : (Limits.maxResourcesPerPath : Int) * Limits.maxBandwidth < kInfinite := by decide
  have total : (facts.resources.map (ceilingAt problem permille)).sum ≤
      facts.resources.length * Limits.maxBandwidth := by
    have each : ∀ amount ∈ facts.resources.map (ceilingAt problem permille), amount ≤
        Limits.maxBandwidth := by
      intro amount inside
      obtain ⟨resource, member, rfl⟩ := List.mem_map.mp inside
      exact (ceilingAt_range accepted built (known resource member) permille).2
    have bound := List.sum_le_card_nsmul _ _ each
    rw [List.length_map, Int.nsmul_eq_mul] at bound
    exact bound
  have scaled : (facts.resources.length : Int) * Limits.maxBandwidth ≤
      (Limits.maxResourcesPerPath : Int) * Limits.maxBandwidth :=
    Int.mul_le_mul_of_nonneg_right (by omega) (by decide)
  apply (measured.least_cut accepted built).path_joins problem.resources.keys_nodup
    (fun resource member => (ceilingAt_range accepted built member permille).1)
      (by decide) routed eligible _ _ _ near
  · rw [same]
    exact strict.imp ne_of_lt
  · rw [same]
    exact known
  · rw [same]
    omega

/-- Demands of the near side reach only resources of the near side. -/
theorem Measures.resource_near {demand : DemandDerivation}
    (routed : demand ∈ routedDemands problem.derivation)
    (near : side (nodeOf problem.nodes.demands demand.demand) = true) {path : PathId}
    (eligible : path ∈ demand.eligiblePaths) {resource : ResourceId}
    (inside : resource ∈ (problem.pathOf path).resources) :
    side (nodeOf problem.nodes.resources resource) = true := by
  have used := (mem_usedPaths _ path).mpr ⟨demand, routed, eligible⟩
  obtain ⟨facts, -, -, same, known⟩ := usedPath_facts accepted built used
  have listed : resource ∈ problem.resources.keys := known resource (same ▸ inside)
  have range := ceilingAt_range accepted built listed permille
  have limit : Limits.maxBandwidth < kInfinite := by decide
  exact (measured.least_cut accepted built).link_joins problem.resources.keys_nodup
    (fun other member => (ceilingAt_range accepted built member permille).1) (by decide) used inside listed
    (by unfold ceilingAt; omega) (measured.path_near accepted built routed near eligible)

omit accepted built in
theorem Measures.reported_ceilings (short : (certify problem permille).feasible = false) :
    ((certify problem permille).saturatedResources.map (ceilingAt problem permille)).sum =
      (problem.resources.keys.map fun resource =>
        if side (nodeOf problem.nodes.resources resource) then
          0 else ceilingAt problem permille resource).sum := by
  rw [((measured.reported short).map _).sum_eq, sum_map_filter]
  congr 1
  apply List.map_congr_left
  intro resource _
  cases side (nodeOf problem.nodes.resources resource)
  · rfl
  · rfl

omit measured in
theorem derived_demands_nodup : problem.derivation.demands.Nodup := by
  rw [built.derivation]
  apply List.Nodup.of_map DemandDerivation.demand
  have ids : (derivation snapshot).demands.map DemandDerivation.demand =
      snapshot.demands.map Demand.id := by
    simp [derivation, Function.comp_def]
  rw [ids]
  exact accepted.demand_checks.2

omit measured in
/-- With no demand starved, the floors of any demands are those of the routed ones among them. -/
theorem sum_floors_routed (unstarved : starvedDemands problem.derivation = [])
    {demands : List DemandDerivation}
    (active : demands.Sublist (problem.derivation.demands.filter DemandDerivation.active)) :
    (demands.map DemandDerivation.floor).sum = ((routedDemands problem.derivation).map fun demand =>
      if demand ∈ demands then demand.floor else 0).sum := by
  have distinct := derived_demands_nodup accepted built
  have needing : demands.filter (fun demand => decide (0 < demand.floor)) ⊆ routedDemands
      problem.derivation := by
    intro demand member
    obtain ⟨chosen, positive⟩ := List.mem_filter.mp member
    obtain ⟨listed, live⟩ := List.mem_filter.mp (active.subset chosen)
    have needs : demand ∈ needingDemands problem.derivation := by
      apply List.mem_filter.mpr ⟨listed, _⟩
      rw [live, positive]
      rfl
    apply List.mem_filter.mpr ⟨needs, _⟩
    have quiet := List.filter_eq_nil_iff.mp unstarved demand needs
    simpa using quiet
  have dropped : (demands.map DemandDerivation.floor).sum =
      ((demands.filter fun demand => decide (0 < demand.floor)).map DemandDerivation.floor).sum := by
    rw [sum_map_filter]
    congr 1
    apply List.map_congr_left
    intro demand member
    have listed := (active.trans List.filter_sublist).subset member
    rw [built.derivation] at listed
    obtain ⟨source, present, rfl⟩ := List.mem_map.mp listed
    have floor := derivedDemand_floor_nonneg accepted present
    split
    · rfl
    · rename_i zero
      rw [decide_eq_true_eq] at zero
      omega
  have chosen : (demands.filter fun demand => decide (0 < demand.floor)).Nodup :=
    (distinct.sublist (active.trans List.filter_sublist)).filter _
  rw [dropped, PathPacking.sum_map_subset DemandDerivation.floor _ _ chosen
    (distinct.sublist (routedDemands_sublist _)) needing]
  congr 1
  apply List.map_congr_left
  intro demand member
  have positive : 0 < demand.floor := by
    rw [built.derivation] at member
    exact (mem_needingDemands (mem_routedDemands member).1).2.1
  simp [positive]

/-- The demands of the far side fit in its resources. -/
theorem Measures.far_fits (unstarved : starvedDemands problem.derivation = [])
    (short : (certify problem permille).feasible = false) {demands : List DemandDerivation}
    (active : demands.Sublist (problem.derivation.demands.filter DemandDerivation.active))
    (far : ∀ demand ∈ demands, demand ∈ routedDemands problem.derivation →
      side (nodeOf problem.nodes.demands demand.demand) = false) :
    (demands.map DemandDerivation.floor).sum ≤
      ((certify problem permille).saturatedResources.map (ceilingAt problem permille)).sum := by
  have fits := (measured.least_cut accepted built).outside_fits (by decide) fun demand =>
    decide (demand ∈ demands)
  rw [measured.reported_ceilings short, sum_floors_routed accepted built unstarved active]
  apply le_trans (le_of_eq _) fits
  congr 1
  apply List.map_congr_left
  intro demand routed
  by_cases chosen : demand ∈ demands
  · simp [chosen, far demand chosen routed]
  · simp [chosen]

end Measured

section Shortfall

variable {problem : Problem} {permille : Int} {snapshot : FabricSnapshot} {derived : Derivation}

/-- A certificate never reports resources that explain its shortfall: what it names is the far side of the
cut, and there every floor fits. -/
theorem saturated_never_explain (accepted : Accepted snapshot) (derives : derive snapshot = .ok derived)
    (built : problem.BuiltFrom snapshot derived) (done : (certify problem permille).built = true)
    (short : (certify problem permille).feasible = false) (unstarved : starvedDemands derived = []) :
    ¬ ∃ demands, Explains problem permille (certify problem permille).saturatedResources demands := by
  obtain ⟨-, rfl⟩ := (derive_eq_ok accepted derived).mp derives
  rintro ⟨demands, explains⟩
  have unstarved' : starvedDemands problem.derivation = [] := by rw [built.derivation, unstarved]
  by_cases unrouted : routedDemands problem.derivation = []
  · rw [(certify_unrouted unrouted permille).2, unstarved'] at short
    cases short
  obtain ⟨side, measured⟩ := certify_measures accepted built unrouted done
  have fits := measured.far_fits accepted built unstarved' short explains.active (by
    intro demand member routed
    by_contra near
    rw [Bool.not_eq_false] at near
    -- A demand of the near side has a resource of the near side, and that is not reported.
    have present := routed
    rw [built.derivation] at present
    obtain ⟨path, eligible⟩ := List.exists_mem_of_ne_nil _ (mem_routedDemands present).2
    obtain ⟨facts, candidate, -, same, -⟩ :=
      usedPath_facts accepted built ((mem_usedPaths _ path).mpr ⟨demand, routed, eligible⟩)
    obtain ⟨resource, inside⟩ := List.exists_mem_of_ne_nil _ (planningPath_resources accepted candidate).2.1
    have inside : resource ∈ (problem.pathOf path).resources := same ▸ inside
    have named :=
      (measured.reported short).mem_iff.mp (explains.confined demand member path eligible resource inside)
    have reached := measured.resource_near accepted built routed near eligible inside
    rw [List.mem_filter, reached] at named
    cases named.2)
  have shortage := explains.short
  omega

/-- At 50 permille the one link of the fabric is short, and nothing is reported. -/
theorem saturated_never_explain_linkFabric :
    let problem := makeProblem linkFabric (derivation linkFabric)
    (certify problem 50).built = true ∧ (certify problem 50).feasible = false ∧
      starvedDemands (derivation linkFabric) = [] ∧
      ¬ ∃ demands, Explains problem 50 (certify problem 50).saturatedResources demands := by
  intro problem
  have done : (certify problem 50).built = true := by decide +kernel
  have short : (certify problem 50).feasible = false := by decide +kernel
  have unstarved : starvedDemands (derivation linkFabric) = [] := by decide +kernel
  exact ⟨done, short, unstarved, saturated_never_explain linkFabric_accepted
    ((derive_eq_ok linkFabric_accepted _).mpr ⟨by decide +kernel, rfl⟩)
    (makeProblem_builtFrom linkFabric (derivation linkFabric)) done short unstarved⟩

/-- What the certificate calls saturated at 50 permille is empty, so it explains nothing. -/
theorem saturated_explains_nothing :
    let problem := makeProblem linkFabric (derivation linkFabric)
    Accepted linkFabric ∧ derive linkFabric = .ok (derivation linkFabric) ∧
      problem.BuiltFrom linkFabric (derivation linkFabric) ∧
      (certify problem 50).built = true ∧ (certify problem 50).feasible = false ∧
      starvedDemands (derivation linkFabric) = [] ∧
      ¬ ∃ demands, Explains problem 50 (certify problem 50).saturatedResources demands := by
  intro problem
  have none_reported : (certify problem 50).saturatedResources = [] := by decide +kernel
  have reached : ∀ demand ∈ problem.derivation.demands.filter DemandDerivation.active,
      ∃ path ∈ demand.eligiblePaths, (problem.pathOf path).resources ≠ [] := by decide +kernel
  refine ⟨linkFabric_accepted, (derive_eq_ok linkFabric_accepted _).mpr ⟨by decide +kernel, rfl⟩,
    makeProblem_builtFrom linkFabric (derivation linkFabric), by decide +kernel, by decide +kernel,
    by decide +kernel, ?_⟩
  rintro ⟨demands, explains⟩
  cases demands with
  | nil =>
      have shortage := explains.short
      simp [none_reported] at shortage
  | cons demand rest =>
      obtain ⟨path, eligible, present⟩ := reached demand (explains.active.subset List.mem_cons_self)
      obtain ⟨resource, inside⟩ := List.exists_mem_of_ne_nil _ present
      have named := explains.confined demand List.mem_cons_self path eligible resource inside
      rw [none_reported] at named
      cases named

/-- The resources it leaves out explain the shortfall. -/
theorem unreported_explain (accepted : Accepted snapshot) (derives : derive snapshot = .ok derived)
    (built : problem.BuiltFrom snapshot derived) (done : (certify problem permille).built = true)
    (short : (certify problem permille).feasible = false) (unstarved : starvedDemands derived = []) :
    ∃ demands, Explains problem permille (problem.resources.keys.filter fun resource =>
      decide (resource ∉ (certify problem permille).saturatedResources)) demands := by
  obtain ⟨-, rfl⟩ := (derive_eq_ok accepted derived).mp derives
  have unstarved' : starvedDemands problem.derivation = [] := by rw [built.derivation, unstarved]
  by_cases unrouted : routedDemands problem.derivation = []
  · rw [(certify_unrouted unrouted permille).2, unstarved'] at short
    cases short
  obtain ⟨side, measured⟩ := certify_measures accepted built unrouted done
  have left : ∀ resource ∈ problem.resources.keys,
      (resource ∉ (certify problem permille).saturatedResources ↔
        side (nodeOf problem.nodes.resources resource) = true) := by
    intro resource member
    rw [(measured.reported short).mem_iff, List.mem_filter]
    simp [member]
  refine ⟨(routedDemands problem.derivation).filter fun demand =>
    side (nodeOf problem.nodes.demands demand.demand), ?_, ?_, ?_⟩
  · apply List.filter_sublist.trans
    apply List.filter_sublist.trans
    apply List.monotone_filter_right
    intro demand needs
    exact (Bool.and_eq_true_iff.mp needs).1
  · intro demand member path eligible resource inside
    obtain ⟨routed, near⟩ := List.mem_filter.mp member
    have used := (mem_usedPaths _ path).mpr ⟨demand, routed, eligible⟩
    obtain ⟨facts, -, -, same, known⟩ := usedPath_facts accepted built used
    have listed : resource ∈ problem.resources.keys := known resource (same ▸ inside)
    have reached := measured.resource_near accepted built routed near eligible inside
    exact List.mem_filter.mpr ⟨listed, by simpa using (left resource listed).mpr reached⟩
  · have lacking : ((problem.arcs permille).map (Arc.crossing side)).sum <
        ((routedDemands problem.derivation).map DemandDerivation.floor).sum := by
      have answer := measured.feasible
      rw [short, requiredTotal_routed built unstarved'] at answer
      have refused := of_decide_eq_false answer.symm
      omega
    rw [sum_crossing_arcs problem permille side measured.source measured.sink] at lacking
    have shortage := PathPacking.inside_short (by decide) lacking
    rw [sum_map_filter, sum_map_filter]
    apply lt_of_le_of_lt (le_of_eq _) shortage
    congr 1
    apply List.map_congr_left
    intro resource member
    simp only [decide_eq_true_eq, left resource member]
    rfl

end Shortfall

end TrafficFabric
