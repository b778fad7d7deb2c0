import TrafficFabric.DerivedDemand
import TrafficFabric.Lib.SortOrder

set_option autoImplicit false

/- The eligibility of the derivation, against the list of conditions the planner documents. -/
namespace TrafficFabric

/-- Latencies in ascending order, paths without latency evidence last. -/
def LatencyBefore : Option Int → Option Int → Prop
  | some first, some second => first < second
  | some _, none => True
  | none, _ => False

/-- The documented order of eligible paths: cost, latency, identity. -/
def RankedBefore (first second : CandidatePath) : Prop :=
  first.cost < second.cost ∨
    first.cost = second.cost ∧ (LatencyBefore first.latencyMicros second.latencyMicros ∨
      first.latencyMicros = second.latencyMicros ∧ first.id < second.id)

/-- Every condition a candidate path has to meet for a demand. -/
structure Eligible (demand : Demand) (path : CandidatePath) : Prop where
  referenced : path.candidateSet = demand.candidateSet
  allowed : demand.allowedPaths ≠ [] → path.id ∈ demand.allowedPaths
  permitted : path.id ∉ demand.forbiddenPaths
  tenantScope : path.scope = .tenant → path.scopeTenant = demand.tenant
  serviceClassScope : path.scope = .serviceClass → path.scopeServiceClass = demand.serviceClass
  latency : ∀ bound, demand.latencyBoundMicros = some bound →
    ∃ latency, path.latencyMicros = some latency ∧ latency ≤ bound
  cost : ∀ ceiling, demand.pathCostCeiling = some ceiling → path.cost ≤ ceiling
  domains : ∀ domain ∈ demand.requiredFailureDomains, domain ∈ path.failureDomains

/-- The eligible paths of the snapshot in the documented order, each once. -/
structure RanksEligible (snapshot : FabricSnapshot) (demand : Demand) (ranked : List CandidatePath) :
    Prop where
  eligible : ∀ path, path ∈ ranked ↔ path ∈ snapshot.paths ∧ Eligible demand path
  ordered : ranked.Pairwise RankedBefore

/-- The leading paths the policy's path bound leaves; a bound of 0 is no bound. -/
def Policy.leading (policy : Policy) (ranked : List CandidatePath) : List CandidatePath :=
  if policy.maxPathsPerDemand = 0 then ranked else ranked.take policy.maxPathsPerDemand.toNat

/-- The derivation entry selects the leading eligible paths and accounts for every other. -/
structure SelectsEligible (snapshot : FabricSnapshot) (demand : Demand) (entry : DemandDerivation) :
    Prop where
  leading : ∃ ranked, RanksEligible snapshot demand ranked ∧
    entry.eligiblePaths = (snapshot.policy.leading ranked).map (fun path => path.id)
  listed : (entry.eligiblePaths ++ entry.excludedPaths.map ExcludedPath.path).Perm
    (snapshot.paths.map (fun path => path.id))

/-! The canonical lists binary search runs on. -/

theorem containsId_iff {kind : IdKind} {ids : List (Id kind)} (strict : ids.Pairwise (· < ·))
    (id : Id kind) : containsId ids id = true ↔ id ∈ ids :=
  binarySearch_iff ids id (strict.imp le_of_lt)

namespace Accepted

variable {snapshot : FabricSnapshot}

theorem allowedPaths_strict (accepted : Accepted snapshot) {demand : Demand}
    (member : demand ∈ snapshot.demands) : demand.allowedPaths.Pairwise (· < ·) := by
  obtain ⟨raw, rfl⟩ := accepted.demand_canonical member
  exact sortUnique_strict id _

theorem forbiddenPaths_strict (accepted : Accepted snapshot) {demand : Demand}
    (member : demand ∈ snapshot.demands) : demand.forbiddenPaths.Pairwise (· < ·) := by
  obtain ⟨raw, rfl⟩ := accepted.demand_canonical member
  exact sortUnique_strict id _

theorem failureDomains_strict (accepted : Accepted snapshot) {path : CandidatePath}
    (member : path ∈ snapshot.paths) : path.failureDomains.Pairwise (· < ·) := by
  obtain ⟨raw, rfl⟩ := accepted.path_canonical member
  exact sortUnique_strict id _

theorem path_latency (accepted : Accepted snapshot) {path : CandidatePath}
    (member : path ∈ snapshot.paths) {latency : Int} (declared : path.latencyMicros = some latency) :
    latency ≤ Limits.maxLatencyMicros := by
  have checked := accepted.path_checks.1 path member
  simp only [validatePath, check_bind_eq_ok, require_eq_ok] at checked
  obtain ⟨-, -, -, -, -, -, -, -, -, -, -, ranged, -⟩ := checked
  rw [declared] at ranged
  exact ((inRange_iff _ _).mp ranged).2

end Accepted

theorem ite_some_eq_none {α : Type} (broken : Bool) (reason : α) (later : Option α) :
    (if broken = true then some reason else later) = none ↔ broken = false ∧ later = none := by
  cases broken with
  | true => simp
  | false => simp

/-- On accepted input the filters decide the documented conditions. -/
theorem exclusionOf_eq_none {snapshot : FabricSnapshot} (accepted : Accepted snapshot)
    {demand : Demand} (asked : demand ∈ snapshot.demands) {path : CandidatePath}
    (candidate : path ∈ snapshot.paths) :
    exclusionOf demand path.toPathFacts = none ↔ Eligible demand path := by
  have allowed := containsId_iff (accepted.allowedPaths_strict asked) path.id
  have forbidden := containsId_iff (accepted.forbiddenPaths_strict asked) path.id
  have domains := fun domain => containsId_iff (accepted.failureDomains_strict candidate) domain
  simp only [exclusionOf, ite_some_eq_none]
  simp only [Bool.and_eq_false_imp, Bool.not_eq_false', Bool.not_eq_true', beq_iff_eq,
    List.isEmpty_eq_false_iff, List.all_eq_true]
  constructor
  · rintro ⟨set, listed, clear, tenant, service, evidence, within, cheap, spread, -⟩
    refine ⟨set, fun some => allowed.mp (listed some), ?_, tenant, service, ?_, ?_,
      fun domain required => (domains domain).mp (spread domain required)⟩
    · intro banned
      have absent := clear (List.ne_nil_of_mem banned)
      rw [forbidden.mpr banned] at absent
      cases absent
    · intro bound declared
      rw [declared] at evidence within
      cases known : path.latencyMicros with
      | none => simp [known] at evidence
      | some latency =>
          refine ⟨latency, rfl, ?_⟩
          simpa [known] using within
    · intro ceiling declared
      rw [declared] at cheap
      simpa using cheap
  · intro eligible
    refine ⟨eligible.referenced, fun some => allowed.mpr (eligible.allowed some), ?_,
      eligible.tenantScope, eligible.serviceClassScope, ?_, ?_, ?_,
      fun domain required => (domains domain).mpr (eligible.domains domain required), trivial⟩
    · intro _
      exact Bool.eq_false_iff.mpr (fun banned => eligible.permitted (forbidden.mp banned))
    · intro declared
      obtain ⟨bound, bounded⟩ := Option.isSome_iff_exists.mp declared
      obtain ⟨latency, known, -⟩ := eligible.latency bound bounded
      rw [known]
      rfl
    · cases bounded : demand.latencyBoundMicros with
      | none => rfl
      | some bound =>
          obtain ⟨latency, known, within⟩ := eligible.latency bound bounded
          simpa [known] using within
    · cases bounded : demand.pathCostCeiling with
      | none => rfl
      | some ceiling => simpa using eligible.cost ceiling bounded

/-! The order of the eligible paths. -/

/-- The sentinel of a path without latency evidence is above every latency that passed validation. -/
theorem latencyOrWorst_lt {snapshot : FabricSnapshot} (accepted : Accepted snapshot)
    {first second : CandidatePath} (left : first ∈ snapshot.paths) (right : second ∈ snapshot.paths) :
    latencyOrWorst first.toPathFacts < latencyOrWorst second.toPathFacts ↔
      LatencyBefore first.latencyMicros second.latencyMicros := by
  unfold latencyOrWorst
  cases known : first.latencyMicros with
  | none =>
      cases other : second.latencyMicros with
      | none => simp [LatencyBefore]
      | some later =>
          have bound := accepted.path_latency right other
          simp only [LatencyBefore, Option.getD_none, Option.getD_some, iff_false]
          omega
  | some earlier =>
      have bound := accepted.path_latency left known
      cases second.latencyMicros with
      | none =>
          simp only [LatencyBefore, Option.getD_none, Option.getD_some, iff_true]
          omega
      | some later => simp [LatencyBefore]

theorem latencyOrWorst_inj {snapshot : FabricSnapshot} (accepted : Accepted snapshot)
    {first second : CandidatePath} (left : first ∈ snapshot.paths) (right : second ∈ snapshot.paths)
    (same : latencyOrWorst first.toPathFacts = latencyOrWorst second.toPathFacts) :
    first.latencyMicros = second.latencyMicros := by
  unfold latencyOrWorst at same
  cases known : first.latencyMicros with
  | none =>
      cases other : second.latencyMicros with
      | none => rfl
      | some later =>
          have bound := accepted.path_latency right other
          simp only [known, other, Option.getD_none, Option.getD_some] at same
          omega
  | some earlier =>
      have bound := accepted.path_latency left known
      cases other : second.latencyMicros with
      | none =>
          simp only [known, other, Option.getD_none, Option.getD_some] at same
          omega
      | some later =>
          simp only [known, other, Option.getD_some] at same
          rw [same]

theorem rankedBefore_of_pathKey {snapshot : FabricSnapshot} (accepted : Accepted snapshot)
    {first second : CandidatePath} (left : first ∈ snapshot.paths) (right : second ∈ snapshot.paths)
    (before : pathKey first.toPathFacts < pathKey second.toPathFacts) :
    RankedBefore first second := by
  rcases Prod.Lex.toLex_lt_toLex.mp before with cheaper | ⟨sameCost, later⟩
  · exact Or.inl cheaper
  · refine Or.inr ⟨sameCost, ?_⟩
    rcases Prod.Lex.toLex_lt_toLex.mp later with faster | ⟨sameLatency, named⟩
    · exact Or.inl ((latencyOrWorst_lt accepted left right).mp faster)
    · exact Or.inr ⟨latencyOrWorst_inj accepted left right sameLatency, named⟩

/-- The eligible candidates in the order the derivation sorts them. -/
def rankedPaths (demand : Demand) (paths : List CandidatePath) : List CandidatePath :=
  stableSort (fun path => pathKey path.toPathFacts)
    (paths.filter fun path => (exclusionOf demand path.toPathFacts).isNone)

theorem eligibleSorted_eq (snapshot : FabricSnapshot) (demand : Demand) :
    eligibleSorted demand (planningPaths snapshot) =
      (rankedPaths demand snapshot.paths).map CandidatePath.toPathFacts := by
  unfold eligibleSorted rankedPaths planningPaths
  rw [List.filter_map]
  exact (map_stableSort CandidatePath.toPathFacts _ fun _ => rfl).symm

theorem mem_rankedPaths {snapshot : FabricSnapshot} (accepted : Accepted snapshot) {demand : Demand}
    (asked : demand ∈ snapshot.demands) (path : CandidatePath) :
    path ∈ rankedPaths demand snapshot.paths ↔ path ∈ snapshot.paths ∧ Eligible demand path := by
  rw [rankedPaths, mem_stableSort, List.mem_filter]
  constructor
  · intro ⟨candidate, passed⟩
    exact ⟨candidate, (exclusionOf_eq_none accepted asked candidate).mp (by simpa using passed)⟩
  · intro ⟨candidate, eligible⟩
    exact ⟨candidate, by simpa using (exclusionOf_eq_none accepted asked candidate).mpr eligible⟩

theorem rankedPaths_ranks {snapshot : FabricSnapshot} (accepted : Accepted snapshot) {demand : Demand}
    (asked : demand ∈ snapshot.demands) :
    RanksEligible snapshot demand (rankedPaths demand snapshot.paths) := by
  refine ⟨mem_rankedPaths accepted asked, ?_⟩
  have ids : ((rankedPaths demand snapshot.paths).map (fun path => path.id)).Nodup := by
    refine ((stableSort_perm _ _).map _).nodup_iff.mpr ?_
    exact accepted.path_checks.2.sublist (List.filter_sublist.map _)
  have keys : ((rankedPaths demand snapshot.paths).map
      (fun path => pathKey path.toPathFacts)).Nodup := by
    refine List.pairwise_map.mpr ((List.pairwise_map.mp ids).imp ?_)
    intro first second different same
    exact different (congrArg (fun key => (ofLex (ofLex key).2).2) same)
  have strict := pairwise_lt_of_le_of_nodup _ _ (stableSort_sorted _ _) keys
  refine strict.imp_of_mem ?_
  intro first second left right before
  exact rankedBefore_of_pathKey accepted ((mem_rankedPaths accepted asked first).mp left).1
    ((mem_rankedPaths accepted asked second).mp right).1 before

/-! The paths left out. -/

theorem excludedByRule_paths (demand : Demand) (paths : List PathFacts) :
    (excludedByRule demand paths).map ExcludedPath.path =
      (paths.filter fun path => !(exclusionOf demand path).isNone).map PathFacts.id := by
  induction paths with
  | nil => rfl
  | cons path rest ih =>
      unfold excludedByRule at ih ⊢
      cases broken : exclusionOf demand path with
      | none => simpa [broken] using ih
      | some reason => simpa [broken] using ih

/-- No path is excluded twice, so sorting the exclusions drops none. -/
theorem sortExcluded_paths {excluded : List ExcludedPath}
    (distinct : (excluded.map ExcludedPath.path).Nodup) :
    ((sortExcluded excluded).map ExcludedPath.path).Perm (excluded.map ExcludedPath.path) := by
  have perm := stableSort_perm ExcludedPath.path excluded
  have apart : (stableSort ExcludedPath.path excluded).Pairwise (· ≠ ·) := by
    refine (List.pairwise_map.mp ((perm.map ExcludedPath.path).nodup_iff.mpr distinct)).imp ?_
    intro first second different same
    exact different (congrArg ExcludedPath.path same)
  rw [sortExcluded, List.destutter_of_isChain _ _ apart.isChain]
  exact perm.map _

theorem leading_eq (policy : Policy) (ranked : List CandidatePath) :
    policy.leading ranked = ranked.take (pathLimit policy ranked.length) := by
  unfold Policy.leading pathLimit
  split
  · rw [List.take_length]
  · rw [List.take_eq_take_min, Nat.min_comm]

/-- What the sorted candidates and the rule exclusions contain is every path, once. -/
theorem paths_split (demand : Demand) (paths : List PathFacts) :
    ((eligibleSorted demand paths).map PathFacts.id ++
      (excludedByRule demand paths).map ExcludedPath.path).Perm (paths.map PathFacts.id) := by
  rw [excludedByRule_paths, ← List.map_append]
  refine List.Perm.map _ ?_
  exact ((stableSort_perm _ _).append_right _).trans (List.filter_append_perm _ paths)

/-- The candidates the policy's path bound cuts off, as the derivation reports them. -/
def beyondLimit (policy : Policy) (eligible : List PathFacts) : List ExcludedPath :=
  (eligible.drop (pathLimit policy eligible.length)).map fun path =>
    ⟨path.id, .pathCountLimit, text "excluded by the policy path-count bound"⟩

theorem leading_beyond (policy : Policy) (eligible : List PathFacts) :
    (eligible.take (pathLimit policy eligible.length)).map PathFacts.id ++
      (beyondLimit policy eligible).map ExcludedPath.path = eligible.map PathFacts.id := by
  rw [beyondLimit, List.map_map]
  exact (List.map_append ..).symm.trans (congrArg _ (List.take_append_drop _ _))

/-- The selected candidates and the sorted exclusions together are every path, once. -/
theorem selected_listed (policy : Policy) (demand : Demand) {paths : List PathFacts}
    (distinct : (paths.map PathFacts.id).Nodup) :
    (((eligibleSorted demand paths).take (pathLimit policy (eligibleSorted demand paths).length)).map
        PathFacts.id ++ (sortExcluded (excludedByRule demand paths ++
          beyondLimit policy (eligibleSorted demand paths))).map ExcludedPath.path).Perm
      (paths.map PathFacts.id) := by
  have whole := paths_split demand paths
  rw [← leading_beyond policy (eligibleSorted demand paths), List.append_assoc,
    ← List.map_append] at whole
  have swapped : ((excludedByRule demand paths ++ beyondLimit policy (eligibleSorted demand paths)).map
      ExcludedPath.path).Perm ((beyondLimit policy (eligibleSorted demand paths) ++
        excludedByRule demand paths).map ExcludedPath.path) :=
    List.perm_append_comm.map ExcludedPath.path
  have parted := List.nodup_append.mp (whole.nodup_iff.mpr distinct)
  have kept := sortExcluded_paths (swapped.nodup_iff.mpr parted.2.1)
  exact ((kept.trans swapped).append_left _).trans whole

/-- The entry of an active demand: what it selects, and that nothing is lost or listed twice. -/
theorem derivedDemand_selects {snapshot : FabricSnapshot} (accepted : Accepted snapshot)
    {demand : Demand} (asked : demand ∈ snapshot.demands)
    (active : demand.effective.covers snapshot.evaluationTick = true) :
    SelectsEligible snapshot demand (derivedDemand snapshot demand) := by
  constructor
  · refine ⟨rankedPaths demand snapshot.paths, rankedPaths_ranks accepted asked, ?_⟩
    rw [derivedDemand_eligiblePaths active, eligibleSorted_eq, List.length_map, ← List.map_take,
      List.map_map, leading_eq]
    rfl
  · have excluded : (derivedDemand snapshot demand).excludedPaths = sortExcluded
        (excludedByRule demand (planningPaths snapshot) ++
          (beyondLimit snapshot.policy (eligibleSorted demand (planningPaths snapshot)))) := by
      simp [derivedDemand, deriveDemand, demandBasics, active, beyondLimit]
    rw [derivedDemand_eligiblePaths active, excluded, ← planningPaths_ids]
    exact selected_listed snapshot.policy demand (planningPaths_nodup accepted)

/-- Every active demand's entry holds the leading documented candidates, the others excluded. -/
theorem derive_selects_eligible {snapshot : FabricSnapshot} (accepted : Accepted snapshot)
    {result : Derivation} (derived : derive snapshot = .ok result) {demand : Demand}
    (asked : demand ∈ snapshot.demands)
    (active : demand.effective.covers snapshot.evaluationTick = true) :
    (∃ entry ∈ result.demands, entry.demand = demand.id) ∧
      ∀ entry ∈ result.demands, entry.demand = demand.id → SelectsEligible snapshot demand entry := by
  obtain ⟨-, rfl⟩ := (derive_eq_ok accepted result).mp derived
  constructor
  · exact ⟨derivedDemand snapshot demand, List.mem_map_of_mem asked, derivedDemand_demand _ _⟩
  · intro entry member named
    obtain ⟨other, inside, rfl⟩ := List.mem_map.mp member
    rw [derivedDemand_demand] at named
    have same : other = demand := eq_of_nodup_key accepted.demand_checks.2 inside asked named
    rw [same]
    exact derivedDemand_selects accepted asked active

/-- Both demands of the mesh fabric, the second of which may not use the first path. -/
theorem derive_selects_eligible_meshFabric :
    (derivation meshFabric).demands.map
      (fun entry => (entry.eligiblePaths.length, entry.excludedPaths.length)) =
        [(3, 0), (2, 1)] ∧
      ∀ demand ∈ meshFabric.demands,
        (∃ entry ∈ (derivation meshFabric).demands, entry.demand = demand.id) ∧
          ∀ entry ∈ (derivation meshFabric).demands, entry.demand = demand.id →
            SelectsEligible meshFabric demand entry := by
  refine ⟨by decide +kernel, ?_⟩
  intro demand asked
  have active : ∀ demand ∈ meshFabric.demands,
      demand.effective.covers meshFabric.evaluationTick = true := by
    decide
  exact derive_selects_eligible meshFabric_accepted meshFabric_derives asked (active demand asked)

end TrafficFabric
