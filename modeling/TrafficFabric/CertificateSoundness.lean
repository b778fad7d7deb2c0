import TrafficFabric.BuiltProblem
import TrafficFabric.Certificate
import TrafficFabric.FlowDuality
import TrafficFabric.Lib.PathPacking

set_option autoImplicit false

/- A certificate that reports a shortfall is a proof: the cut found by the maximum flow
has less capacity than the floors, and whole-path rates cannot pass more than any cut. -/
namespace TrafficFabric

/-! Node numbers. -/

section Numbering

variable {K : Type} [LinearOrder K]

def numberFrom (nodes : OrdMap K Nat) (keys : List K) (start : Nat) : OrdMap K Nat :=
  (keys.zipIdx start).foldl (fun nodes entry => nodes.insert entry.1 entry.2) nodes

theorem numberFrom_absent (nodes : OrdMap K Nat) (keys : List K) (start : Nat) {key : K}
    (absent : key ∉ keys) : (numberFrom nodes keys start).find? key = nodes.find? key := by
  induction keys generalizing nodes start with
  | nil => rfl
  | cons first rest ih =>
      rw [List.mem_cons, not_or] at absent
      change (numberFrom (nodes.insert first start) rest (start + 1)).find? key = _
      rw [ih _ _ absent.2, OrdMap.find?_insert_ne _ _ _ _ absent.1]

theorem numberFrom_find (nodes : OrdMap K Nat) (keys : List K) (start : Nat)
    (distinct : keys.Nodup) {key : K} (member : key ∈ keys) :
    (numberFrom nodes keys start).find? key = some (start + keys.idxOf key) := by
  induction keys generalizing nodes start with
  | nil => cases member
  | cons first rest ih =>
      rw [List.nodup_cons] at distinct
      change (numberFrom (nodes.insert first start) rest (start + 1)).find? key = _
      by_cases same : key = first
      · subst same
        rw [numberFrom_absent _ _ _ distinct.1, OrdMap.find?_insert_self, List.idxOf_cons_self]
        rfl
      · have later : key ∈ rest := by
          rcases List.mem_cons.mp member with equal | inside
          · exact absurd equal same
          · exact inside
        rw [ih _ _ distinct.2 later, List.idxOf_cons_ne _ (Ne.symm same)]
        congr 1
        omega

theorem nodeOf_numberNodes {keys : List K} (start : Nat) (distinct : keys.Nodup) {key : K}
    (member : key ∈ keys) : nodeOf (numberNodes keys start) key = start + keys.idxOf key := by
  have found := numberFrom_find OrdMap.empty keys start distinct member
  change ((numberFrom OrdMap.empty keys start).find? key).getD 0 = _
  rw [found]
  rfl

theorem nodeOf_range {keys : List K} (start : Nat) (distinct : keys.Nodup) {key : K}
    (member : key ∈ keys) : start ≤ nodeOf (numberNodes keys start) key ∧
      nodeOf (numberNodes keys start) key < start + keys.length := by
  have inside := List.idxOf_lt_length_of_mem member
  rw [nodeOf_numberNodes start distinct member]
  omega

theorem nodeOf_injective {keys : List K} (start : Nat) (distinct : keys.Nodup) {first second : K}
    (firstMember : first ∈ keys) (secondMember : second ∈ keys)
    (same : nodeOf (numberNodes keys start) first = nodeOf (numberNodes keys start) second) :
    first = second := by
  rw [nodeOf_numberNodes start distinct firstMember,
    nodeOf_numberNodes start distinct secondMember] at same
  exact (List.idxOf_inj firstMember).mp (by omega)

theorem mem_numberNodes {keys : List K} (start : Nat) (distinct : keys.Nodup) (key : K) (node : Nat) :
    (key, node) ∈ (numberNodes keys start).entries ↔ key ∈ keys ∧
      nodeOf (numberNodes keys start) key = node := by
  rw [OrdMap.mem_entries_iff]
  by_cases member : key ∈ keys
  · have found : (numberNodes keys start).find? key = some (start + keys.idxOf key) :=
      numberFrom_find OrdMap.empty keys start distinct member
    rw [nodeOf_numberNodes start distinct member, found, Option.some.injEq]
    exact ⟨fun same => ⟨member, same⟩, fun both => both.2⟩
  · have absent : (numberNodes keys start).find? key = none :=
      (numberFrom_absent OrdMap.empty keys start member).trans rfl
    simp [absent, member]

/-- The keys whose nodes are picked. -/
theorem numberNodes_picked {keys : List K} (start : Nat) (distinct : keys.Nodup) (pick : Nat → Bool) :
    (((numberNodes keys start).entries.filter fun entry => pick entry.2).map Prod.fst).Perm
      (keys.filter fun key => pick (nodeOf (numberNodes keys start) key)) := by
  have picked : (((numberNodes keys start).entries.filter fun entry => pick entry.2).map Prod.fst).Nodup :=
    List.Nodup.sublist (List.filter_sublist.map Prod.fst) (numberNodes keys start).keys_nodup
  apply (List.perm_ext_iff_of_nodup picked (distinct.filter _)).mpr
  intro key
  rw [List.mem_map, List.mem_filter]
  constructor
  · rintro ⟨⟨named, node⟩, entry, rfl⟩
    obtain ⟨present, chosen⟩ := List.mem_filter.mp entry
    obtain ⟨member, rfl⟩ := (mem_numberNodes start distinct named node).mp present
    exact ⟨member, chosen⟩
  · rintro ⟨member, chosen⟩
    have entry := (mem_numberNodes start distinct key _).mpr ⟨member, rfl⟩
    exact ⟨(key, _), List.mem_filter.mpr ⟨entry, chosen⟩, rfl⟩

end Numbering

/-! The network of a list of arcs. -/

theorem emptyNetwork_spec (nodes : Nat) : (emptyNetwork nodes).length = nodes ∧
    (emptyNetwork nodes).Paired ∧ ∀ side, Adjacency.cut side (emptyNetwork nodes) = 0 := by
  induction nodes with
  | zero =>
      refine ⟨rfl, ?_, fun _ => rfl⟩
      intro node index edge found
      simp [emptyNetwork, Adjacency.edgeAt, Adjacency.edgesOf] at found
  | succ nodes ih =>
      obtain ⟨length, paired, cut⟩ := ih
      refine ⟨?_, paired.addNode, ?_⟩
      · simp [emptyNetwork, Adjacency.addNode, length]
      · intro side
        rw [emptyNetwork, Adjacency.cut_addNode, cut]

/-- Capacity of an arc that leaves the side. -/
def Arc.crossing (side : Nat → Bool) (arc : Arc) : Int :=
  if side arc.source then if side arc.target then 0 else arc.capacity else 0

theorem addArcs_spec (arcs : List Arc) (net : Adjacency) (paired : net.Paired)
    (inside : ∀ arc ∈ arcs, arc.source < net.length ∧ arc.target < net.length ∧
      arc.source ≠ arc.target) :
    (addArcs net arcs).length = net.length ∧ (addArcs net arcs).Paired ∧
      ∀ side, Adjacency.cut side (addArcs net arcs) =
        Adjacency.cut side net + (arcs.map (Arc.crossing side)).sum := by
  induction arcs generalizing net with
  | nil => exact ⟨rfl, paired, fun _ => by simp [addArcs]⟩
  | cons arc rest ih =>
      obtain ⟨sourceInside, targetInside, different⟩ := inside arc List.mem_cons_self
      have length := Adjacency.length_addEdge net arc.source arc.target arc.capacity
      obtain ⟨restLength, restPaired, restCut⟩ := ih
        (net.addEdge arc.source arc.target arc.capacity)
        (paired.addEdge arc.capacity sourceInside targetInside different) (by
          intro other member
          rw [length]
          exact inside other (List.mem_cons_of_mem _ member))
      refine ⟨restLength.trans length, restPaired, ?_⟩
      intro side
      have grown := Adjacency.cut_addEdge side arc.capacity sourceInside targetInside different
      change Adjacency.cut side (addArcs (net.addEdge arc.source arc.target arc.capacity) rest) = _
      rw [restCut, grown, List.map_cons, List.sum_cons, Arc.crossing]
      omega

theorem emptyNetwork_nonneg (nodes : Nat) : (emptyNetwork nodes).NonNegative := by
  induction nodes with
  | zero =>
      intro node index edge found
      simp [emptyNetwork, Adjacency.edgeAt, Adjacency.edgesOf] at found
  | succ nodes ih => exact ih.addNode

theorem addArcs_nonneg (arcs : List Arc) (net : Adjacency) (nonneg : net.NonNegative)
    (inside : ∀ arc ∈ arcs, arc.source < net.length ∧ arc.target < net.length ∧ arc.source ≠ arc.target)
    (capacities : ∀ arc ∈ arcs, 0 ≤ arc.capacity) : (addArcs net arcs).NonNegative := by
  induction arcs generalizing net with
  | nil => exact nonneg
  | cons arc rest ih =>
      obtain ⟨⟨sourceInside, targetInside, different⟩, restInside⟩ := List.forall_mem_cons.mp inside
      obtain ⟨capacity, restCapacities⟩ := List.forall_mem_cons.mp capacities
      have length := Adjacency.length_addEdge net arc.source arc.target arc.capacity
      apply ih (net.addEdge arc.source arc.target arc.capacity)
      · exact nonneg.addEdge sourceInside targetInside different capacity
      · rw [length]
        exact restInside
      · exact restCapacities

/-! The lists the network is built from. -/

theorem mem_usedPaths (demands : List DemandDerivation) (path : PathId) :
    path ∈ usedPaths demands ↔ ∃ demand ∈ demands, path ∈ demand.eligiblePaths := by
  unfold usedPaths
  rw [mem_sortUnique_id, List.mem_flatMap]

theorem usedPaths_nodup (demands : List DemandDerivation) : (usedPaths demands).Nodup :=
  (sortUnique_strict id _).imp ne_of_lt

theorem routedDemands_sublist (derived : Derivation) :
    (routedDemands derived).Sublist derived.demands :=
  List.filter_sublist.trans List.filter_sublist

section Lists

variable {snapshot : FabricSnapshot} (accepted : Accepted snapshot)

theorem mem_needingDemands {demand : DemandDerivation}
    (member : demand ∈ needingDemands (derivation snapshot)) :
    demand.active = true ∧ 0 < demand.floor ∧
      ∃ source ∈ snapshot.demands, derivedDemand snapshot source = demand := by
  unfold needingDemands at member
  rw [List.mem_filter, Bool.and_eq_true, decide_eq_true_eq] at member
  exact ⟨member.2.1, member.2.2, List.mem_map.mp member.1⟩

theorem mem_routedDemands {demand : DemandDerivation}
    (member : demand ∈ routedDemands (derivation snapshot)) :
    demand ∈ needingDemands (derivation snapshot) ∧ demand.eligiblePaths ≠ [] := by
  unfold routedDemands at member
  rw [List.mem_filter] at member
  exact ⟨member.1, by simpa using member.2⟩

include accepted in
theorem routedDemands_nodup :
    ((routedDemands (derivation snapshot)).map DemandDerivation.demand).Nodup := by
  have whole : ((derivation snapshot).demands.map DemandDerivation.demand).Nodup := by
    have ids : (derivation snapshot).demands.map DemandDerivation.demand =
        snapshot.demands.map Demand.id := by
      simp [derivation, Function.comp_def]
    rw [ids]
    exact accepted.demand_checks.2
  exact List.Nodup.sublist ((routedDemands_sublist _).map _) whole

end Lists

/-! Node ranges, and what the arcs connect. -/

section Arcs

variable {problem : Problem} {snapshot : FabricSnapshot} (accepted : Accepted snapshot)
variable (built : problem.BuiltFrom snapshot (derivation snapshot))

include accepted built

/-- Demands, paths and resources are numbered in three consecutive blocks. -/
structure NodeBlocks (problem : Problem) (demands paths : Nat) : Prop where
  demand : ∀ demand ∈ routedDemands problem.derivation,
    2 ≤ nodeOf problem.nodes.demands demand.demand ∧
      nodeOf problem.nodes.demands demand.demand < demands
  path : ∀ path ∈ usedPaths (routedDemands problem.derivation),
    demands ≤ nodeOf problem.nodes.paths path ∧ nodeOf problem.nodes.paths path < paths
  resource : ∀ resource ∈ problem.resources.keys,
    paths ≤ nodeOf problem.nodes.resources resource ∧
      nodeOf problem.nodes.resources resource < problem.nodeBudget

theorem nodeBlocks : ∃ demands paths, NodeBlocks problem demands paths ∧ 2 ≤ demands ∧
    demands ≤ paths ∧ paths ≤ problem.nodeBudget := by
  have distinct : ((routedDemands problem.derivation).map DemandDerivation.demand).Nodup := by
    rw [built.derivation]
    exact routedDemands_nodup accepted
  refine ⟨2 + (routedDemands problem.derivation).length,
    2 + (routedDemands problem.derivation).length +
      (usedPaths (routedDemands problem.derivation)).length, ⟨?_, ?_, ?_⟩, by omega, by omega, ?_⟩
  · intro demand member
    have range := nodeOf_range 2 distinct (List.mem_map_of_mem member)
    rw [List.length_map] at range
    exact range
  · intro path member
    exact nodeOf_range _ (usedPaths_nodup _) member
  · intro resource member
    have range := nodeOf_range (2 + (routedDemands problem.derivation).length +
      (usedPaths (routedDemands problem.derivation)).length) problem.resources.keys_nodup member
    rw [OrdMap.keys, List.length_map] at range
    exact range
  · unfold Problem.nodeBudget
    omega

/-- The paths of the network are candidates of the snapshot, over resources of it. -/
theorem usedPath_facts {path : PathId} (member : path ∈ usedPaths (routedDemands problem.derivation)) :
    ∃ facts ∈ planningPaths snapshot, facts.id = path ∧ problem.pathOf path = facts ∧
      ∀ resource ∈ facts.resources, resource ∈ problem.resources.keys := by
  rw [built.derivation, mem_usedPaths] at member
  obtain ⟨demand, routed, eligible⟩ := member
  obtain ⟨-, -, source, -, rfl⟩ := mem_needingDemands (mem_routedDemands routed).1
  obtain ⟨facts, candidate, named, found⟩ := built.eligible_path accepted eligible
  refine ⟨facts, candidate, named, found, ?_⟩
  intro resource used
  obtain ⟨state, present⟩ := built.resource_known accepted
    ((planningPath_resources accepted candidate).2.2.2 resource used)
  rw [OrdMap.mem_keys_iff, present]
  rfl

theorem arcs_inside (permille : Int) : ∀ arc ∈ problem.arcs permille,
    arc.source < problem.nodeBudget ∧ arc.target < problem.nodeBudget ∧
      arc.source ≠ arc.target := by
  obtain ⟨demands, paths, blocks, start, below, within⟩ := nodeBlocks accepted built
  intro arc member
  unfold Problem.arcs Problem.countedArcs at member
  rw [List.mem_append, List.mem_append, List.mem_flatMap, List.mem_flatMap, List.mem_map] at member
  rcases member with (⟨demand, routed, found⟩ | ⟨path, used, found⟩) | ⟨entry, present, rfl⟩
  · have node := blocks.demand demand routed
    rcases List.mem_cons.mp found with rfl | eligible
    · simp only [sourceArc]
      omega
    · obtain ⟨path, inside, rfl⟩ := List.mem_map.mp eligible
      have next := blocks.path path ((mem_usedPaths _ path).mpr ⟨demand, routed, inside⟩)
      dsimp only
      omega
  · obtain ⟨facts, -, -, same, known⟩ := usedPath_facts accepted built used
    obtain ⟨resource, inside, rfl⟩ := List.mem_map.mp found
    rw [same] at inside
    have node := blocks.path path used
    have next := blocks.resource resource (known resource inside)
    dsimp only
    omega
  · have key : entry.1 ∈ problem.resources.keys := by
      rw [← OrdMap.keys_mapValues problem.resources
        (fun resource => (recomputeCeiling resource permille).ceiling)]
      exact List.mem_map_of_mem present
    have node := blocks.resource entry.1 key
    simp only [sinkArc]
    omega

end Arcs

/-! Whole-path rates against the certificate. -/

/-- Total rate over the paths that contain the resource. -/
def rateLoad (problem : Problem) (rate : DemandId → PathId → Int) (resource : ResourceId) : Int :=
  (problem.derivation.demands.map fun demand => (demand.eligiblePaths.map fun path =>
    if resource ∈ (problem.pathOf path).resources then rate demand.demand path else 0).sum).sum

/-- Rates on the eligible paths that meet the floor of every active demand within the
ceilings of every resource. -/
structure CarriesFloors (problem : Problem) (permille : Int) (rate : DemandId → PathId → Int) :
    Prop where
  nonneg : ∀ demand ∈ problem.derivation.demands, ∀ path ∈ demand.eligiblePaths,
    0 ≤ rate demand.demand path
  floors : ∀ demand ∈ problem.derivation.demands, demand.active = true →
    demand.floor ≤ (demand.eligiblePaths.map (rate demand.demand)).sum
  ceilings : ∀ id resource, problem.resources.find? id = some resource →
    rateLoad problem rate id ≤ (recomputeCeiling resource permille).ceiling

theorem CarriesFloors.not_starved {problem : Problem} {permille : Int}
    {rate : DemandId → PathId → Int} (carries : CarriesFloors problem permille rate) :
    starvedDemands problem.derivation = [] := by
  apply List.eq_nil_iff_forall_not_mem.mpr
  intro demand member
  unfold starvedDemands needingDemands at member
  rw [List.mem_filter, List.mem_filter, Bool.and_eq_true, decide_eq_true_eq] at member
  have floor := carries.floors demand member.1.1 member.1.2.1
  have positive := member.1.2.2
  rw [List.isEmpty_iff.mp member.2] at floor
  simp only [List.map_nil, List.sum_nil] at floor
  omega

/-- The load the routed demands put on a resource is part of its whole load. -/
theorem CarriesFloors.routed_load {problem : Problem} {permille : Int}
    {rate : DemandId → PathId → Int} (carries : CarriesFloors problem permille rate)
    (resource : ResourceId) :
    PathPacking.load (routedDemands problem.derivation) DemandDerivation.eligiblePaths
      (fun path => (problem.pathOf path).resources) (fun demand path => rate demand.demand path)
      resource ≤ rateLoad problem rate resource := by
  apply List.Sublist.sum_le_sum ((routedDemands_sublist _).map _)
  intro amount member
  obtain ⟨demand, inside, rfl⟩ := List.mem_map.mp member
  apply sum_map_nonneg
  intro path eligible
  have rates := carries.nonneg demand inside path eligible
  split <;> omega

theorem sum_crossing_arcs (problem : Problem) (permille : Int) (side : Nat → Bool)
    (source : side 0 = true) (sink : side 1 = false) :
    ((problem.arcs permille).map (Arc.crossing side)).sum =
      PathPacking.cutCapacity (routedDemands problem.derivation) DemandDerivation.eligiblePaths
        (fun path => (problem.pathOf path).resources) (usedPaths (routedDemands problem.derivation))
        problem.resources.keys DemandDerivation.floor
        (fun resource => ((ceilingsAt problem permille).find? resource).getD 0) kInfinite
        (fun demand => side (nodeOf problem.nodes.demands demand.demand))
        (fun path => side (nodeOf problem.nodes.paths path))
        (fun resource => side (nodeOf problem.nodes.resources resource)) := by
  have sinks : (((ceilingsAt problem permille).entries.map (sinkArc problem.nodes)).map
        (Arc.crossing side)).sum =
      (problem.resources.keys.map fun resource =>
        if side (nodeOf problem.nodes.resources resource) then
          ((ceilingsAt problem permille).find? resource).getD 0 else 0).sum := by
    have keys : problem.resources.keys = (ceilingsAt problem permille).entries.map (·.1) :=
      (OrdMap.keys_mapValues problem.resources _).symm
    rw [keys, List.map_map, List.map_map]
    congr 1
    apply List.map_congr_left
    intro entry member
    have found := (OrdMap.mem_entries_iff _ entry.1 entry.2).mp member
    simp [Arc.crossing, sinkArc, sink, found]
  unfold Problem.arcs Problem.countedArcs PathPacking.cutCapacity
  rw [List.map_append, List.map_append, List.sum_append, List.sum_append, sum_map_flatMap,
    sum_map_flatMap, sinks]
  simp [Arc.crossing, sourceArc, eligibilityArcs, pathArcs, source, Function.comp_def]

theorem ceilingAt_known {problem : Problem} {resource : ResourceId}
    (member : resource ∈ problem.resources.keys) (permille : Int) :
    ∃ state, problem.resources.find? resource = some state ∧
      ((ceilingsAt problem permille).find? resource).getD 0 =
        (recomputeCeiling state permille).ceiling := by
  rw [OrdMap.mem_keys_iff, Option.isSome_iff_exists] at member
  obtain ⟨state, found⟩ := member
  exact ⟨state, found, by simp [ceilingsAt, found]⟩

/-- What a certificate that was built has measured: a least cut of the network, and which
resources lie beyond it. -/
structure Measures (problem : Problem) (permille : Int) (side : Nat → Bool) : Prop where
  source : side 0 = true
  sink : side 1 = false
  least : ∀ other : Nat → Bool, other 0 = true → other 1 = false →
    ((problem.arcs permille).map (Arc.crossing side)).sum ≤
      ((problem.arcs permille).map (Arc.crossing other)).sum
  feasible : (certify problem permille).feasible =
    decide (requiredTotal problem.derivation ≤
      min int64Max ((problem.arcs permille).map (Arc.crossing side)).sum)
  reported : (certify problem permille).feasible = false →
    (certify problem permille).saturatedResources.Perm
      (problem.resources.keys.filter fun resource => !side (nodeOf problem.nodes.resources resource))

/-- Without a routed demand there is no network to measure. -/
theorem certify_unrouted {problem : Problem} (unrouted : routedDemands problem.derivation = [])
    (permille : Int) :
    (certify problem permille).built = true ∧
      (certify problem permille).feasible = (starvedDemands problem.derivation).isEmpty := by
  simp [certify, unrouted]

/-- Only a certificate that was built reports that the floors fit. -/
theorem certify_built_of_feasible {problem : Problem} {permille : Int}
    (fits : (certify problem permille).feasible = true) : (certify problem permille).built = true := by
  unfold certify at fits ⊢
  dsimp only at fits ⊢
  have unbuilt : (certificateBase problem.derivation).feasible = false := rfl
  split
  · rfl
  · rename_i routed
    rw [if_neg routed] at fits
    split
    · rename_i exceeded
      rw [if_pos exceeded, unbuilt] at fits
      cases fits
    · rename_i nodes
      rw [if_neg nodes] at fits
      split
      · rename_i exceeded
        rw [if_pos exceeded, unbuilt] at fits
        cases fits
      · rename_i edges
        rw [if_neg edges] at fits
        generalize FlowNetwork.maxFlow _ _ _ _ = answer at fits ⊢
        cases answer with
        | none =>
            rw [unbuilt] at fits
            cases fits
        | some result =>
            dsimp only at fits ⊢
            split
            · rename_i exhausted
              rw [if_pos exhausted, unbuilt] at fits
              cases fits
            · split
              · rfl
              · rfl

section Soundness

variable {problem : Problem} {snapshot : FabricSnapshot} (accepted : Accepted snapshot)
variable (built : problem.BuiltFrom snapshot (derivation snapshot))

include accepted built

theorem ceiling_range {id : ResourceId} {resource : ResourceState}
    (found : problem.resources.find? id = some resource) (permille : Int) :
    0 ≤ (recomputeCeiling resource permille).ceiling ∧
      (recomputeCeiling resource permille).ceiling ≤ Limits.maxBandwidth := by
  obtain ⟨source, member, -, same⟩ := built.resource_of accepted found
  have range := accepted.resource_range member
  obtain ⟨-, -, -, bound⟩ := publishedResidual_facts accepted member
  have available : resource.available = (publishedResidual snapshot source).available :=
    congrArg ResourceState.available same
  simp only [recomputeCeiling, ceilingOf]
  omega

theorem ceilingAt_range {resource : ResourceId} (member : resource ∈ problem.resources.keys)
    (permille : Int) :
    0 ≤ ((ceilingsAt problem permille).find? resource).getD 0 ∧
      ((ceilingsAt problem permille).find? resource).getD 0 ≤ Limits.maxBandwidth := by
  obtain ⟨state, found, value⟩ := ceilingAt_known member permille
  rw [value]
  exact ceiling_range accepted built found permille

theorem arcs_nonneg (permille : Int) : ∀ arc ∈ problem.arcs permille, 0 ≤ arc.capacity := by
  have infinite : 0 ≤ kInfinite := by decide
  intro arc member
  unfold Problem.arcs Problem.countedArcs at member
  rw [List.mem_append, List.mem_append, List.mem_flatMap, List.mem_flatMap, List.mem_map] at member
  rcases member with (⟨demand, routed, found⟩ | ⟨path, used, found⟩) | ⟨entry, present, rfl⟩
  · rcases List.mem_cons.mp found with rfl | eligible
    · rw [built.derivation] at routed
      exact le_of_lt (mem_needingDemands (mem_routedDemands routed).1).2.1
    · obtain ⟨path, inside, rfl⟩ := List.mem_map.mp eligible
      exact infinite
  · obtain ⟨resource, inside, rfl⟩ := List.mem_map.mp found
    exact infinite
  · have found := (OrdMap.mem_entries_iff _ _ _).mp present
    have key : entry.1 ∈ problem.resources.keys := by
      rw [← OrdMap.keys_mapValues problem.resources
        (fun resource => (recomputeCeiling resource permille).ceiling)]
      exact List.mem_map_of_mem present
    have range := ceilingAt_range accepted built key permille
    rw [found] at range
    exact range.1

theorem certify_measures {permille : Int} (routed : routedDemands problem.derivation ≠ [])
    (done : (certify problem permille).built = true) : ∃ side, Measures problem permille side := by
  obtain ⟨emptyLength, emptyPaired, emptyCut⟩ := emptyNetwork_spec problem.nodeBudget
  have inside := arcs_inside accepted built permille
  rw [← emptyLength] at inside
  obtain ⟨length, paired, cut⟩ := addArcs_spec (problem.arcs permille)
    (emptyNetwork problem.nodeBudget) emptyPaired inside
  have nonneg := addArcs_nonneg (problem.arcs permille) _ (emptyNetwork_nonneg problem.nodeBudget) inside
    (arcs_nonneg accepted built permille)
  have start : 0 < problem.nodeBudget := by
    unfold Problem.nodeBudget
    omega
  obtain ⟨flow, residual, computed, outcome⟩ := FlowNetwork.maxFlow_least paired nonneg
    (by omega : 0 < _) (by decide : 0 ≠ 1) Limits.maxSolverIterations
  have outline : certify problem permille =
      if Limits.maxCertificateNodes < problem.nodeBudget then certificateBase problem.derivation
      else if Limits.maxCertificateEdges < problem.countedArcs.length then
        certificateBase problem.derivation
      else if flow < 0 then certificateBase problem.derivation
      else
        let measured := { certificateBase problem.derivation with
          built := true
          achievable := flow
          feasible := decide ((certificateBase problem.derivation).required ≤ flow) }
        if measured.feasible then measured else readCut problem.nodes residual measured := by
    unfold certify
    dsimp only
    rw [if_neg (by simpa using routed), computed]
  have unbuilt : (certificateBase problem.derivation).built = false := rfl
  rw [outline] at done
  by_cases nodes : Limits.maxCertificateNodes < problem.nodeBudget
  · rw [if_pos nodes, unbuilt] at done
    cases done
  by_cases edges : Limits.maxCertificateEdges < problem.countedArcs.length
  · rw [if_neg nodes, if_pos edges, unbuilt] at done
    cases done
  by_cases exhausted : flow < 0
  · rw [if_neg nodes, if_neg edges, if_pos exhausted, unbuilt] at done
    cases done
  rw [if_neg nodes, if_neg edges, if_neg exhausted] at outline
  rcases outcome with failed | ⟨exact, -, value, least⟩
  · omega
  have crossing : ∀ side,
    Adjacency.cut side (addArcs (emptyNetwork problem.nodeBudget) (problem.arcs permille)) =
      ((problem.arcs permille).map (Arc.crossing side)).sum := by
    intro side
    rw [cut, emptyCut, Int.zero_add]
  have filled := least.filled
  rw [crossing] at filled
  refine ⟨FlowNetwork.reachableSide residual 0, least.rooted, least.apart, ?_, ?_, ?_⟩
  · intro other source sink
    have bound := least.least other source sink
    rw [crossing] at bound
    omega
  · rw [outline, filled, ← value]
    dsimp only
    split
    · rfl
    · rfl
  · intro short
    rw [outline] at short ⊢
    dsimp only at short ⊢
    split at short
    · rename_i enough
      rw [enough] at short
      cases short
    · rename_i lacking
      rw [if_neg lacking]
      apply (stableSort_perm id _).trans
      exact numberNodes_picked _ problem.resources.keys_nodup fun node =>
        !FlowNetwork.reachableSide residual 0 node

omit accepted in
/-- With no demand starved, what is required is the sum of the routed floors. -/
theorem requiredTotal_routed (unstarved : starvedDemands problem.derivation = []) :
    requiredTotal problem.derivation =
      min int64Max ((routedDemands problem.derivation).map DemandDerivation.floor).sum := by
  have routed : routedDemands problem.derivation = needingDemands problem.derivation := by
    apply List.filter_eq_self.mpr
    intro demand member
    have quiet := List.filter_eq_nil_iff.mp unstarved demand member
    simpa using quiet
  have floors : ∀ demand ∈ needingDemands problem.derivation, 0 ≤ demand.floor := by
    intro demand member
    rw [built.derivation] at member
    exact le_of_lt (mem_needingDemands member).2.1
  rw [routed]
  unfold requiredTotal
  rw [foldl_satAdd DemandDerivation.floor _ 0 floors (by decide), Int.zero_add]

/-- Whole-path rates pass through every cut of the network. -/
theorem floors_le_crossing {permille : Int} {rate : DemandId → PathId → Int}
    (carries : CarriesFloors problem permille rate) (side : Nat → Bool)
    (source : side 0 = true) (sink : side 1 = false) :
    ((routedDemands problem.derivation).map DemandDerivation.floor).sum ≤
      ((problem.arcs permille).map (Arc.crossing side)).sum := by
  have listed : ∀ demand ∈ routedDemands problem.derivation,
      demand ∈ problem.derivation.demands := fun demand member =>
    (routedDemands_sublist _).subset member
  have active : ∀ demand ∈ routedDemands problem.derivation, demand.active = true := by
    intro demand member
    rw [built.derivation] at member
    exact (mem_needingDemands (mem_routedDemands member).1).1
  rw [sum_crossing_arcs problem permille side source sink]
  have nonneg : ∀ demand ∈ routedDemands problem.derivation, ∀ path ∈ demand.eligiblePaths,
      0 ≤ rate demand.demand path := fun demand member =>
    carries.nonneg demand (listed demand member)
  apply PathPacking.floors_le_cutCapacity nonneg
  · intro demand member
    rw [built.derivation] at member
    obtain ⟨-, -, origin, -, rfl⟩ := mem_needingDemands (mem_routedDemands member).1
    exact derivedDemand_eligible_nodup accepted origin
  · exact usedPaths_nodup _
  · intro demand member path eligible
    exact (mem_usedPaths _ path).mpr ⟨demand, member, eligible⟩
  · intro path member
    obtain ⟨facts, candidate, -, same, -⟩ := usedPath_facts accepted built member
    rw [same]
    exact (planningPath_resources accepted candidate).2.1
  · intro path member resource used
    obtain ⟨facts, -, -, same, known⟩ := usedPath_facts accepted built member
    rw [same] at used
    exact known resource used
  · intro demand member
    exact carries.floors demand (listed demand member) (active demand member)
  · intro resource member
    obtain ⟨state, found, value⟩ := ceilingAt_known member permille
    rw [value]
    exact (carries.routed_load resource).trans (carries.ceilings resource state found)
  · intro resource member
    have range := ceilingAt_range accepted built member permille
    have limit : Limits.maxBandwidth ≤ kInfinite := by decide
    omega
  · decide

/-- Rates that carry the floors make every certificate that is built feasible. -/
theorem certify_feasible_of_rates {permille : Int} {rate : DemandId → PathId → Int}
    (carries : CarriesFloors problem permille rate) (done : (certify problem permille).built = true) :
    (certify problem permille).feasible = true := by
  have unstarved := carries.not_starved
  by_cases unrouted : routedDemands problem.derivation = []
  · rw [(certify_unrouted unrouted permille).2, unstarved]
    rfl
  · obtain ⟨side, measured⟩ := certify_measures accepted built unrouted done
    have floors := floors_le_crossing accepted built carries side measured.source measured.sink
    rw [measured.feasible, decide_eq_true_eq, requiredTotal_routed built unstarved]
    omega

end Soundness

/-! The unbounded arcs. -/

/-- The arcs of capacity `kInfinite`. -/
def Problem.unboundedArcs (problem : Problem) : List Arc :=
  (routedDemands problem.derivation).flatMap (eligibilityArcs problem.nodes) ++
    (usedPaths (routedDemands problem.derivation)).flatMap (pathArcs problem problem.nodes)

/-- A flow from node 0 to node 1 that respects every capacity but those of the unbounded
arcs. -/
structure RelaxedFlow (problem : Problem) (permille : Int) (amount : Arc → Int) : Prop where
  nonneg : ∀ arc ∈ problem.arcs permille, 0 ≤ amount arc
  conserved : ∀ node, node ≠ 0 → node ≠ 1 →
    ((problem.arcs permille).map fun arc => if arc.target = node then amount arc else 0).sum =
      ((problem.arcs permille).map fun arc => if arc.source = node then amount arc else 0).sum
  capacities : ∀ arc ∈ problem.arcs permille, arc ∉ problem.unboundedArcs →
    amount arc ≤ arc.capacity

/-- Every sum over the arcs, block by block. -/
theorem sum_arcs (problem : Problem) (permille : Int) (measure : Arc → Int) :
    ((problem.arcs permille).map measure).sum =
      ((routedDemands problem.derivation).map fun demand => measure (sourceArc problem.nodes demand) +
        ((eligibilityArcs problem.nodes demand).map measure).sum).sum +
      ((usedPaths (routedDemands problem.derivation)).map fun path =>
        ((pathArcs problem problem.nodes path).map measure).sum).sum +
      ((ceilingsAt problem permille).entries.map fun entry =>
        measure (sinkArc problem.nodes entry)).sum := by
  unfold Problem.arcs Problem.countedArcs
  rw [List.map_append, List.map_append, List.sum_append, List.sum_append, sum_map_flatMap,
    sum_map_flatMap, List.map_map]
  simp only [List.map_cons, List.sum_cons, Function.comp_def]

section Slack

variable {problem : Problem} {permille : Int} {amount : Arc → Int}

theorem RelaxedFlow.le_inflow (flow : RelaxedFlow problem permille amount) {arc : Arc}
    (member : arc ∈ problem.arcs permille) : amount arc ≤
    ((problem.arcs permille).map fun other =>
      if other.target = arc.target then amount other else 0).sum := by
  have part := le_sum_map (fun other => if other.target = arc.target then amount other else 0)
    (problem.arcs permille) (by
      intro other inside
      have nonneg := flow.nonneg other inside
      split <;> omega) arc member
  rw [if_pos rfl] at part
  exact part

variable {snapshot : FabricSnapshot} (accepted : Accepted snapshot)
variable (built : problem.BuiltFrom snapshot (derivation snapshot))

include accepted built

/-- Only the arc to the sink leaves a resource. -/
theorem resource_outflow {id : ResourceId} {ceiling : Int}
    (found : (ceilingsAt problem permille).find? id = some ceiling) :
    ((problem.arcs permille).map fun arc =>
      if arc.source = nodeOf problem.nodes.resources id then amount arc else 0).sum =
      amount (sinkArc problem.nodes (id, ceiling)) := by
  obtain ⟨demands, paths, blocks, start, below, -⟩ := nodeBlocks accepted built
  have keys : (ceilingsAt problem permille).keys = problem.resources.keys :=
    OrdMap.keys_mapValues problem.resources _
  have entry := (OrdMap.mem_entries_iff _ id ceiling).mpr found
  have key : id ∈ problem.resources.keys := keys ▸ List.mem_map_of_mem entry
  have node := blocks.resource id key
  rw [sum_arcs, sum_map_eq_zero _ (routedDemands problem.derivation), sum_map_eq_zero _ (usedPaths _)]
  · have distinct : ((ceilingsAt problem permille).entries.map fun entry =>
        nodeOf problem.nodes.resources entry.1).Nodup := by
      apply List.Nodup.map_on
      · intro first firstMember second secondMember same
        have firstKey : first.1 ∈ problem.resources.keys := keys ▸ List.mem_map_of_mem firstMember
        have secondKey : second.1 ∈ problem.resources.keys := keys ▸ List.mem_map_of_mem secondMember
        have equal := nodeOf_injective _ problem.resources.keys_nodup firstKey secondKey same
        exact List.inj_on_of_nodup_map (ceilingsAt problem permille).keys_nodup firstMember
          secondMember equal
      · exact List.Nodup.of_map _ (ceilingsAt problem permille).keys_nodup
    have only := sum_map_of_key (fun entry : ResourceId × Int =>
      nodeOf problem.nodes.resources entry.1) (fun entry => amount (sinkArc problem.nodes entry))
      (ceilingsAt problem permille).entries distinct (id, ceiling) entry
    rw [Int.zero_add, Int.zero_add]
    exact only
  · intro path member
    have other := blocks.path path member
    apply sum_map_eq_zero
    intro arc leaving
    obtain ⟨resource, -, rfl⟩ := List.mem_map.mp leaving
    rw [if_neg (by dsimp only; omega)]
  · intro demand member
    have other := blocks.demand demand member
    rw [if_neg (by simp only [sourceArc]; omega), Int.zero_add]
    apply sum_map_eq_zero
    intro arc leaving
    obtain ⟨path, -, rfl⟩ := List.mem_map.mp leaving
    rw [if_neg (by dsimp only; omega)]

/-- Only the arcs to its resources leave a path. -/
theorem path_outflow {path : PathId} (used : path ∈ usedPaths (routedDemands problem.derivation)) :
    ((problem.arcs permille).map fun arc =>
      if arc.source = nodeOf problem.nodes.paths path then amount arc else 0).sum =
      ((pathArcs problem problem.nodes path).map amount).sum := by
  obtain ⟨demands, paths, blocks, start, below, -⟩ := nodeBlocks accepted built
  have keys : (ceilingsAt problem permille).keys = problem.resources.keys :=
    OrdMap.keys_mapValues problem.resources _
  have node := blocks.path path used
  rw [sum_arcs, sum_map_eq_zero _ (routedDemands problem.derivation),
    sum_map_eq_zero _ (ceilingsAt problem permille).entries]
  · have distinct : ((usedPaths (routedDemands problem.derivation)).map fun path =>
        nodeOf problem.nodes.paths path).Nodup := by
      apply List.Nodup.map_on
      · intro first firstMember second secondMember same
        exact nodeOf_injective _ (usedPaths_nodup _) firstMember secondMember same
      · exact usedPaths_nodup _
    have only := sum_map_of_key (fun path => nodeOf problem.nodes.paths path)
      (fun path => ((pathArcs problem problem.nodes path).map amount).sum)
      (usedPaths (routedDemands problem.derivation)) distinct path used
    rw [← only, Int.zero_add, Int.add_zero]
    congr 1
    apply List.map_congr_left
    intro other _
    by_cases same : nodeOf problem.nodes.paths other = nodeOf problem.nodes.paths path
    · simp [pathArcs, same, Function.comp_def]
    · simp [pathArcs, same, Function.comp_def]
  · intro entry member
    have other := blocks.resource entry.1 (keys ▸ List.mem_map_of_mem member)
    rw [if_neg (by simp only [sinkArc]; omega)]
  · intro demand member
    have other := blocks.demand demand member
    rw [if_neg (by simp only [sourceArc]; omega), Int.zero_add]
    apply sum_map_eq_zero
    intro arc leaving
    obtain ⟨candidate, -, rfl⟩ := List.mem_map.mp leaving
    rw [if_neg (by dsimp only; omega)]

/-- An arc into a resource carries no more than the resource's ceiling. -/
theorem RelaxedFlow.pathArc_le (flow : RelaxedFlow problem permille amount) {path : PathId}
    (used : path ∈ usedPaths (routedDemands problem.derivation)) {arc : Arc}
    (member : arc ∈ pathArcs problem problem.nodes path) :
    0 ≤ amount arc ∧ amount arc ≤ Limits.maxBandwidth := by
  have listed : arc ∈ problem.arcs permille := by
    apply List.mem_append_left
    apply List.mem_append_right
    exact List.mem_flatMap.mpr ⟨path, used, member⟩
  obtain ⟨demands, paths, blocks, start, below, -⟩ := nodeBlocks accepted built
  obtain ⟨facts, -, -, same, known⟩ := usedPath_facts accepted built used
  have inflow := flow.le_inflow listed
  obtain ⟨resource, inside, rfl⟩ := List.mem_map.mp member
  rw [same] at inside
  have key := known resource inside
  have node := blocks.resource resource key
  rw [OrdMap.mem_keys_iff, Option.isSome_iff_exists] at key
  obtain ⟨state, found⟩ := key
  have ceiling : (ceilingsAt problem permille).find? resource =
      some (recomputeCeiling state permille).ceiling := by
    simp [ceilingsAt, found]
  have range := ceiling_range accepted built found permille
  have outflow : ((problem.arcs permille).map fun arc =>
      if arc.source = nodeOf problem.nodes.resources resource then amount arc else 0).sum =
      amount (sinkArc problem.nodes (resource, (recomputeCeiling state permille).ceiling)) :=
    resource_outflow accepted built ceiling
  have sink : amount (sinkArc problem.nodes (resource, (recomputeCeiling state permille).ceiling)) ≤
      (recomputeCeiling state permille).ceiling := by
    apply flow.capacities
    · apply List.mem_append_right
      exact List.mem_map_of_mem ((OrdMap.mem_entries_iff _ _ _).mpr ceiling)
    · intro unbounded
      -- Unbounded arcs end at paths or resources, never at the sink.
      unfold Problem.unboundedArcs at unbounded
      rw [List.mem_append, List.mem_flatMap, List.mem_flatMap] at unbounded
      rcases unbounded with ⟨demand, routed, leaving⟩ | ⟨other, otherUsed, leaving⟩
      · obtain ⟨next, eligible, equal⟩ := List.mem_map.mp leaving
        have other := blocks.path next ((mem_usedPaths _ next).mpr ⟨demand, routed, eligible⟩)
        have target : nodeOf problem.nodes.paths next = 1 := congrArg Arc.target equal
        omega
      · obtain ⟨otherFacts, -, -, otherSame, otherKnown⟩ := usedPath_facts accepted built otherUsed
        obtain ⟨next, crossed, equal⟩ := List.mem_map.mp leaving
        rw [otherSame] at crossed
        have other := blocks.resource next (otherKnown next crossed)
        have target : nodeOf problem.nodes.resources next = 1 := congrArg Arc.target equal
        omega
  have conserved := flow.conserved (nodeOf problem.nodes.resources resource) (by omega) (by omega)
  have nonneg := flow.nonneg _ listed
  dsimp only at inflow
  omega

/-- However much the demands send, no unbounded arc is ever full. -/
theorem RelaxedFlow.unbounded_slack (flow : RelaxedFlow problem permille amount) {arc : Arc}
    (member : arc ∈ problem.unboundedArcs) : amount arc < kInfinite := by
  have limit : (Limits.maxResourcesPerPath : Int) * Limits.maxBandwidth < kInfinite := by decide
  have small : Limits.maxBandwidth < kInfinite := by decide
  obtain ⟨demands, paths, blocks, start, below, -⟩ := nodeBlocks accepted built
  unfold Problem.unboundedArcs at member
  rw [List.mem_append, List.mem_flatMap, List.mem_flatMap] at member
  rcases member with ⟨demand, routed, leaving⟩ | ⟨path, used, leaving⟩
  · have listed : arc ∈ problem.arcs permille := by
      apply List.mem_append_left
      apply List.mem_append_left
      exact List.mem_flatMap.mpr ⟨demand, routed, List.mem_cons_of_mem _ leaving⟩
    have inflow := flow.le_inflow listed
    obtain ⟨path, eligible, rfl⟩ := List.mem_map.mp leaving
    have used := (mem_usedPaths _ path).mpr ⟨demand, routed, eligible⟩
    have node := blocks.path path used
    obtain ⟨facts, candidate, -, same, -⟩ := usedPath_facts accepted built used
    have conserved := flow.conserved (nodeOf problem.nodes.paths path) (by omega) (by omega)
    have outflow : ((problem.arcs permille).map fun arc =>
        if arc.source = nodeOf problem.nodes.paths path then amount arc else 0).sum =
        ((pathArcs problem problem.nodes path).map amount).sum := path_outflow accepted built used
    have count : (pathArcs problem problem.nodes path).length ≤ Limits.maxResourcesPerPath := by
      rw [pathArcs, List.length_map, same]
      exact (planningPath_resources accepted candidate).2.2.1
    have total : ((pathArcs problem problem.nodes path).map amount).sum ≤
        (pathArcs problem problem.nodes path).length * Limits.maxBandwidth := by
      have each : ∀ amounts ∈ (pathArcs problem problem.nodes path).map amount,
          amounts ≤ Limits.maxBandwidth := by
        intro amounts inside
        obtain ⟨crossing, present, rfl⟩ := List.mem_map.mp inside
        exact (flow.pathArc_le accepted built used present).2
      have bound := List.sum_le_card_nsmul _ _ each
      rw [List.length_map, Int.nsmul_eq_mul] at bound
      exact bound
    have scaled : ((pathArcs problem problem.nodes path).length : Int) * Limits.maxBandwidth ≤
        (Limits.maxResourcesPerPath : Int) * Limits.maxBandwidth :=
      Int.mul_le_mul_of_nonneg_right (by omega) (by decide)
    dsimp only at inflow
    omega
  · have range := flow.pathArc_le accepted built used leaving
    omega

end Slack

/-- A built certificate that reports a shortfall is a proof that no whole-path rates carry
the floors, and the bound of the inner arcs takes no part in it. -/
theorem certify_sound {snapshot : FabricSnapshot} {derived : Derivation} {problem : Problem}
    (accepted : Accepted snapshot) (derives : derive snapshot = .ok derived)
    (built : problem.BuiltFrom snapshot derived) (permille : Int) :
    ((certify problem permille).built = true → (certify problem permille).feasible = false →
      ¬ ∃ rate, CarriesFloors problem permille rate) ∧
    ∀ amount, RelaxedFlow problem permille amount →
      ∀ arc ∈ problem.unboundedArcs, amount arc < kInfinite := by
  obtain ⟨-, rfl⟩ := (derive_eq_ok accepted derived).mp derives
  constructor
  · rintro done short ⟨rate, carries⟩
    rw [certify_feasible_of_rates accepted built carries done] at short
    cases short
  · intro amount flow arc member
    exact flow.unbounded_slack accepted built member

/-- A ceiling of 50 permille leaves 5 of the 10 units the demand needs. -/
theorem certify_sound_linkFabric :
    let problem := makeProblem linkFabric (derivation linkFabric)
    (certify problem 50).built = true ∧ (certify problem 50).feasible = false ∧
      (¬ ∃ rate, CarriesFloors problem 50 rate) ∧
      ∀ amount, RelaxedFlow problem 50 amount →
        ∀ arc ∈ problem.unboundedArcs, amount arc < kInfinite := by
  intro problem
  have done : (certify problem 50).built = true := by decide +kernel
  have short : (certify problem 50).feasible = false := by decide +kernel
  have sound := certify_sound linkFabric_accepted
    ((derive_eq_ok linkFabric_accepted _).mpr ⟨by decide +kernel, rfl⟩)
    (makeProblem_builtFrom linkFabric (derivation linkFabric)) 50
  exact ⟨done, short, sound.1 done short, sound.2⟩

end TrafficFabric
