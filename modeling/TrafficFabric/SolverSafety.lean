import TrafficFabric.BuiltAllocation
import TrafficFabric.SolverOutcomes

set_option autoImplicit false

namespace TrafficFabric

/-! Policy exclusions. -/

theorem excluded_iff {snapshot : FabricSnapshot} (accepted : Accepted snapshot) (demand : Demand) :
    (tenantExcluded snapshot.policy demand = true ∨
      serviceClassExcluded snapshot.policy demand = true) ↔
      PolicyExcludes snapshot.policy demand := by
  have tenants := binarySearch_iff snapshot.policy.allowedTenants demand.tenant
    (accepted.allowedTenants_strict.imp le_of_lt)
  have classes := binarySearch_iff snapshot.policy.allowedServiceClasses demand.serviceClass
    (accepted.allowedServiceClasses_strict.imp le_of_lt)
  unfold tenantExcluded serviceClassExcluded containsId PolicyExcludes
  simp only [Bool.and_eq_true, Bool.not_eq_true', List.isEmpty_iff, ne_eq,
    ← Bool.not_eq_true, tenants, classes]

/-- The note that makes the solver skip a demand is there exactly when policy excludes it. -/
theorem policyExclusion_demandNotes (policy : Policy) (demand : Demand) (basics : DemandDerivation)
    (eligible limit : Nat) :
    policyExclusion (demandNotes policy demand basics eligible limit) =
      if serviceClassExcluded policy demand then
        text "the demand service class is not permitted by the active policy"
      else if tenantExcluded policy demand then
        text "the demand tenant is not permitted by the active policy"
      else [] := by
  have quiet : ∀ (notes : List BindingConstraint) (start : Text),
      (∀ note ∈ notes, note.kind ≠ .tenantPolicy ∧ note.kind ≠ .serviceClassPolicy) →
      notes.foldl (fun exclusion note =>
        if note.kind = .tenantPolicy ∨ note.kind = .serviceClassPolicy then note.detail
        else exclusion) start = start := by
    intro notes start others
    induction notes with
    | nil => rfl
    | cons note rest ih =>
        obtain ⟨own, later⟩ := List.forall_mem_cons.mp others
        rw [List.foldl_cons, if_neg (by simp [own.1, own.2])]
        exact ih later
  unfold policyExclusion demandNotes
  simp only [List.foldl_append]
  rw [quiet _ _ (by intro note member; split at member <;> simp_all [demandNote]),
    quiet _ _ (by intro note member; split at member <;> simp_all [demandNote]),
    quiet _ [] (by intro note member; split at member <;> simp_all [demandNote])]
  by_cases classes : serviceClassExcluded policy demand = true
  · simp [classes, serviceClassNote, demandNote]
  · by_cases tenants : tenantExcluded policy demand = true
    · simp [classes, tenants, tenantNote, demandNote]
    · simp [classes, tenants]

/-- The solver skips an active demand exactly when policy excludes it. -/
theorem admitted_iff {snapshot : FabricSnapshot} (accepted : Accepted snapshot) {demand : Demand}
    (active : demand.effective.covers snapshot.evaluationTick = true) :
    Admitted snapshot demand ↔ ¬ PolicyExcludes snapshot.policy demand := by
  have notes : policyExclusion (derivedDemand snapshot demand).notes =
      if serviceClassExcluded snapshot.policy demand then
        text "the demand service class is not permitted by the active policy"
      else if tenantExcluded snapshot.policy demand then
        text "the demand tenant is not permitted by the active policy"
      else [] := by
    unfold derivedDemand deriveDemand
    simp only [demandBasics, active, Bool.not_true, Bool.false_eq_true, ↓reduceIte]
    exact policyExclusion_demandNotes snapshot.policy demand _ _ _
  unfold Admitted
  rw [notes, ← excluded_iff accepted demand]
  by_cases classes : serviceClassExcluded snapshot.policy demand = true
  · rw [if_pos classes]
    simp only [classes, or_true, not_true_eq_false, iff_false]
    decide +kernel
  · rw [if_neg classes]
    by_cases tenants : tenantExcluded snapshot.policy demand = true
    · rw [if_pos tenants]
      simp only [tenants, true_or, not_true_eq_false, iff_false]
      decide +kernel
    · simp [classes, tenants]

/-! Hard constraints of an outcome. -/

structure ResourceSafe (snapshot : FabricSnapshot) (residual : ResourceResidual)
    (allocation : Allocation) (utilization : ResourceUtilization) : Prop where
  exact : utilization.allocated = allocationLoad snapshot allocation utilization.resource
  within : utilization.allocated ≤
    min residual.available (policyHeadroom snapshot.policy residual)
  unsaturated : utilization.allocated < int64Max

structure EntrySafe (demand : DemandDerivation) (entry : DemandAllocation) : Prop where
  exact : entry.granted = (entry.shares.map PathShare.granted).sum
  shares : ∀ share ∈ entry.shares, 0 < share.granted ∧ share.path ∈ demand.eligiblePaths
  nonneg : 0 ≤ entry.granted
  maximum : entry.granted ≤ demand.maximum
  unsaturated : entry.granted < int64Max

/-- The hard constraints every outcome of the solver satisfies. -/
structure SafeOutcome (snapshot : FabricSnapshot) (derived : Derivation) (outcome : SolveOutcome) :
    Prop where
  resources : ∀ utilization ∈ outcome.allocation.resources, ∃ residual ∈ derived.residuals,
    residual.resource = utilization.resource ∧
      ResourceSafe snapshot residual outcome.allocation utilization
  entries : ∀ entry ∈ outcome.allocation.demands, ∃ demand ∈ derived.demands,
    demand.demand = entry.demand ∧ EntrySafe demand entry
  withheld : ∀ demand ∈ snapshot.demands,
    demand.effective.covers snapshot.evaluationTick = false ∨
      PolicyExcludes snapshot.policy demand →
    ∀ entry ∈ outcome.allocation.demands, entry.demand = demand.id → entry.granted = 0
  feasible : outcome.status = .feasible → outcome.verified = true ∧
    ∀ demand ∈ derived.demands, demand.active = true →
      ∃ entry ∈ outcome.allocation.demands, entry.demand = demand.demand ∧
        demand.floor ≤ entry.granted

/-- An outcome without an allocation and without success promises nothing. -/
theorem safeOutcome_of_empty {snapshot : FabricSnapshot} {derived : Derivation}
    {outcome : SolveOutcome} (empty : outcome.allocation = default)
    (refused : outcome.status ≠ .feasible) : SafeOutcome snapshot derived outcome := by
  refine ⟨?_, ?_, ?_, fun feasible => absurd feasible refused⟩
  · intro utilization member
    rw [empty] at member
    cases member
  · intro entry member
    rw [empty] at member
    cases member
  · intro demand _ _ entry member
    rw [empty] at member
    cases member

/-- A problem with a short floor is not reported as feasible. -/
theorem verdictOf_feasible {policy : Policy} {options : SolveOptions} {problem : Problem} {conflict : Bool}
    (feasible : (verdictOf policy options problem conflict).status = .feasible) :
    floorsMet problem = true := by
  unfold verdictOf certifiedVerdict at feasible
  dsimp only at feasible
  split at feasible
  · cases feasible
  · split at feasible
    · assumption
    · split at feasible
      · cases feasible
      · split at feasible
        · split at feasible
          · cases feasible
          · split at feasible <;> cases feasible
        · split at feasible <;> cases feasible

section Concluded

variable {snapshot : FabricSnapshot} {permille : Int} (accepted : Accepted snapshot)
variable {problem : Problem} (safe : problem.Safe snapshot permille) (options : SolveOptions)

include accepted safe

theorem withheld_granted {demand : Demand} (member : demand ∈ snapshot.demands)
    (withheld : demand.effective.covers snapshot.evaluationTick = false ∨
      PolicyExcludes snapshot.policy demand) :
    (problem.demandOf demand.id).granted = 0 := by
  obtain ⟨state, found, current, derived, exclusion⟩ := safe.demand_state accepted member
  have none : ∀ path amount, state.shares.find? path ≠ some amount := by
    intro path amount held
    obtain ⟨-, eligible, included⟩ := safe.consistent.shares _ state found path amount held
    rw [derived] at eligible
    have active := (derivedDemand_eligible eligible).1
    rw [exclusion] at included
    rcases withheld with inactive | excluded
    · rw [active] at inactive
      cases inactive
    · exact (admitted_iff accepted active).mp included excluded
  rw [current, safe.consistent.grants _ state found]
  apply OrdMap.total_eq_zero
  intro path amount held
  exact absurd held (none path amount)

theorem granted_of_floorsMet (met : floorsMet problem = true) {demand : Demand}
    (member : demand ∈ snapshot.demands)
    (active : demand.effective.covers snapshot.evaluationTick = true) :
    (derivedDemand snapshot demand).floor ≤ (problem.demandOf demand.id).granted := by
  obtain ⟨state, found, current, -, -⟩ := safe.demand_state accepted member
  have nonneg := safe.consistent.granted_nonneg found
  have listed : derivedDemand snapshot demand ∈ problem.derivation.demands := by
    rw [safe.consistent.built.derivation]
    exact List.mem_map_of_mem member
  have checked := List.all_eq_true.mp met _ listed
  simp only [derivedDemand_active, active, Bool.not_true, Bool.false_or, derivedDemand_demand,
    current] at checked
  rw [current]
  split at checked
  · simpa using checked
  · have floor : (derivedDemand snapshot demand).floor ≤ 0 := by simpa using checked
    omega

theorem conclude_safe (fits : overflowingResource snapshot = none) (nonneg : 0 ≤ permille)
    (bounded : permille ≤ snapshot.policy.maxUtilizationPermille) (iterations : Nat)
    (notes : List Text) (ceiling : Int) (conflict : Bool) :
    SafeOutcome snapshot (derivation snapshot)
      (conclude snapshot (derivation snapshot) options problem iterations notes ceiling conflict) := by
  have word : Limits.maxBandwidth < int64Max := by decide
  have derived := safe.consistent.built.derivation
  refine ⟨?_, ?_, ?_, ?_⟩
  · intro utilization member
    simp only [conclude, buildAllocation, derived, derivation, List.mem_map] at member
    obtain ⟨residual, ⟨resource, inside, rfl⟩, rfl⟩ := member
    refine ⟨_, List.mem_map_of_mem inside, rfl, ?_⟩
    obtain ⟨state, found, load, -⟩ := problem_resource accepted safe inside
    have allocated : (utilizationOf problem (publishedResidual snapshot resource)).allocated =
        problem.load resource.id := by
      change ((problem.resources.find? resource.id).getD default).allocated = _
      rw [found]
      exact load
    have exact := buildAllocation_load accepted safe options
      (verdictOf snapshot.policy options problem conflict).degraded resource.id
    have within := load_le_cap accepted safe fits nonneg bounded inside
    have range := accepted.resource_range inside
    obtain ⟨-, -, -, bound⟩ := publishedResidual_facts accepted inside
    refine ⟨allocated.trans exact.symm, ?_, ?_⟩
    · rw [allocated]
      exact within
    · rw [allocated]
      omega
  · intro entry member
    obtain ⟨demand, inside, rfl⟩ := (mem_buildAllocation safe options).mp member
    have range := accepted.demand_range inside
    obtain ⟨low, high⟩ := entryOf_granted_range accepted safe inside options
    refine ⟨_, List.mem_map_of_mem inside, rfl, ?_⟩
    refine ⟨entryOf_granted accepted safe inside options, ?_, low, ?_, by omega⟩
    · intro share listed
      obtain ⟨positive, eligible, -, -⟩ := entryOf_share accepted safe inside options listed
      exact ⟨positive, eligible⟩
    · rw [derivedDemand_maximum]
      exact high
  · intro demand inside withheld entry member named
    obtain ⟨other, otherInside, rfl⟩ := (mem_buildAllocation safe options).mp member
    have sameId : other.id = demand.id := by
      rw [← named]
      simp [entryOf]
    have zero := withheld_granted accepted safe inside withheld
    simp only [entryOf, derivedDemand_demand, sameId]
    exact zero
  · intro feasible
    have verified : (conclude snapshot (derivation snapshot) options problem iterations notes ceiling
        conflict).verified = true := by
      simp only [conclude] at feasible ⊢
      split at feasible
      · assumption
      · cases feasible
    refine ⟨verified, ?_⟩
    have met : floorsMet problem = true := by
      simp only [conclude] at feasible verified
      rw [if_pos verified] at feasible
      exact verdictOf_feasible feasible
    intro derivedEntry listed active
    obtain ⟨demand, inside, rfl⟩ := List.mem_map.mp listed
    rw [derivedDemand_active] at active
    have floor := granted_of_floorsMet accepted safe met inside active
    refine ⟨_, (mem_buildAllocation safe options).mpr ⟨demand, inside, rfl⟩, rfl, ?_⟩
    simp only [entryOf, derivedDemand_demand]
    exact floor

end Concluded

/-- Whatever the objectives and the incumbent, an outcome of the solver respects capacity,
policy, eligibility and the bounds of every demand, in exact arithmetic. -/
theorem solve_safe {snapshot : FabricSnapshot} {options : SolveOptions} {derived : Derivation}
    {outcome : SolveOutcome} (accepted : Accepted snapshot) (budget : 0 < options.maxIterations)
    (derives : derive snapshot = .ok derived) (solved : solve snapshot options = .ok outcome) :
    SafeOutcome snapshot derived outcome := by
  obtain ⟨fits, rfl⟩ := (derive_eq_ok accepted derived).mp derives
  rw [← Except.ok.inj ((solve_of_derives derives budget).symm.trans solved)]
  by_cases constructs : Constructs snapshot (derivation snapshot)
  · obtain ⟨nonneg, bounded⟩ := startingCeiling_range accepted (derivation snapshot)
    obtain ⟨permille, low, high, safe⟩ := constructed_safe accepted options nonneg bounded
    rw [solveDerived_constructs constructs]
    exact conclude_safe accepted safe options fits low high _ _ _ _
  · obtain ⟨empty, refused⟩ := solveDerived_refuses accepted constructs options
    refine safeOutcome_of_empty empty ?_
    rcases refused with status | status | status <;> simp [status]

/-- The demand of the link fabric gets its ten units. -/
theorem solve_safe_linkFabric : ∃ outcome, solve linkFabric {} = .ok outcome ∧
    SafeOutcome linkFabric (derivation linkFabric) outcome := by
  have derives : derive linkFabric = .ok (derivation linkFabric) :=
    (derive_eq_ok linkFabric_accepted _).mpr ⟨by decide +kernel, rfl⟩
  have solved : solve linkFabric {} = .ok (solveDerived linkFabric (derivation linkFabric) {}) := by
    unfold solve
    rw [if_neg (by decide), derives]
  exact ⟨_, solved, solve_safe linkFabric_accepted (by decide) derives solved⟩

end TrafficFabric
