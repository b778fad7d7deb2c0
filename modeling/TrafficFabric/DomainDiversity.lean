import TrafficFabric.FloorReports

set_option autoImplicit false

/- A demand may ask for a number of distinct failure domains. Validation bounds the number
and the digests cover it, but no constraint of the solver reads it: the paths that carry a
demand are chosen without it, and so the bound holds where every choice meets it. -/
namespace TrafficFabric

/-- The distinct failure domains the paths cross. -/
def crossedDomains (paths : List PathFacts) : List FailureDomainId :=
  (paths.flatMap PathFacts.failureDomains).dedup

/-- The candidate paths with a positive share in the entry. -/
def carryingPaths (snapshot : FabricSnapshot) (entry : DemandAllocation) : List PathFacts :=
  (planningPaths snapshot).filter fun path =>
    entry.shares.any fun share => share.path == path.id && decide (0 < share.granted)

/-- A feasible outcome spreads every granted demand as the demand asks. -/
def Diversified (snapshot : FabricSnapshot) (outcome : SolveOutcome) : Prop :=
  outcome.status = .feasible → ∀ demand ∈ snapshot.demands,
    demand.effective.covers snapshot.evaluationTick = true →
    ∀ entry ∈ outcome.allocation.demands, entry.demand = demand.id → 0 < entry.granted →
      demand.minDistinctFailureDomains.toNat ≤ (crossedDomains (carryingPaths snapshot entry)).length

/-- Rates that would give the demand its floor, were it alone in the capped fabric. -/
structure CarriesFloor (snapshot : FabricSnapshot) (demand : Demand) (rate : PathId → Int) : Prop where
  nonneg : ∀ path, 0 ≤ rate path
  eligible : ∀ path ∈ planningPaths snapshot, 0 < rate path.id →
    path.id ∈ (derivedDemand snapshot demand).eligiblePaths
  positive : 0 < ((planningPaths snapshot).map fun path => rate path.id).sum
  floor : (derivedDemand snapshot demand).floor ≤
    ((planningPaths snapshot).map fun path => rate path.id).sum
  maximum : ((planningPaths snapshot).map fun path => rate path.id).sum ≤ demand.maximumBandwidth
  capacity : ∀ resource ∈ snapshot.capacity.resources, pathRateLoad snapshot rate resource.id ≤
    min (publishedResidual snapshot resource).available
      (policyHeadroom snapshot.policy (publishedResidual snapshot resource))

/-- However its floor is carried, a demand the policy admits crosses as many failure domains
as it asks for. -/
def DiversityForced (snapshot : FabricSnapshot) : Prop :=
  ∀ demand ∈ snapshot.demands, demand.effective.covers snapshot.evaluationTick = true →
    ¬ PolicyExcludes snapshot.policy demand → ∀ rate, CarriesFloor snapshot demand rate →
      demand.minDistinctFailureDomains.toNat ≤ (crossedDomains
        ((planningPaths snapshot).filter fun path => decide (0 < rate path.id))).length

/-! The rates of one entry. -/

/-- An allocation of the entry alone, whose rates are the entry's. -/
def entryRate (entry : DemandAllocation) : PathId → Int := rateOn { demands := [entry] }

theorem entryRate_eq (entry : DemandAllocation) (path : PathId) : entryRate entry path =
    (entry.shares.map fun share => if share.path = path then share.granted else 0).sum := by
  simp [entryRate, rateOn, allShares]

theorem entryRate_load {snapshot : FabricSnapshot} (accepted : Accepted snapshot)
    (entry : DemandAllocation) (resource : ResourceId) :
    pathRateLoad snapshot (entryRate entry) resource = entryLoad snapshot resource entry := by
  unfold entryRate
  rw [pathRateLoad_rateOn accepted]
  simp [allocationLoad]

/-- Every share is on one candidate path, so the rates add up to the shares. -/
theorem entryRate_total {snapshot : FabricSnapshot} (accepted : Accepted snapshot)
    {entry : DemandAllocation} (placed : ∀ share ∈ entry.shares,
      ∃ path ∈ planningPaths snapshot, path.id = share.path) :
    ((planningPaths snapshot).map fun path => entryRate entry path.id).sum =
      (entry.shares.map PathShare.granted).sum := by
  simp only [entryRate_eq]
  rw [sum_map_comm]
  congr 1
  apply List.map_congr_left
  intro share member
  obtain ⟨path, candidate, named⟩ := placed share member
  have single := sum_map_of_key PathFacts.id (fun _ => share.granted) (planningPaths snapshot)
    (planningPaths_nodup accepted) path candidate
  rw [named] at single
  simpa only [eq_comm] using single

section Rates

variable {entry : DemandAllocation} (positive : ∀ share ∈ entry.shares, 0 < share.granted)

include positive

theorem entryRate_part (path : PathId) : ∀ share ∈ entry.shares,
    0 ≤ if share.path = path then share.granted else 0 := by
  intro share member
  have amount := positive share member
  split <;> omega

theorem entryRate_nonneg (path : PathId) : 0 ≤ entryRate entry path := by
  rw [entryRate_eq]
  exact sum_map_nonneg _ _ (entryRate_part positive path)

/-- A path has a rate exactly when a share is on it. -/
theorem entryRate_pos (path : PathId) :
    0 < entryRate entry path ↔ ∃ share ∈ entry.shares, share.path = path := by
  rw [entryRate_eq]
  constructor
  · intro some
    by_contra none
    have zero : (entry.shares.map fun share =>
        if share.path = path then share.granted else 0).sum = 0 := by
      apply sum_map_eq_zero
      intro share member
      exact if_neg fun here => none ⟨share, member, here⟩
    omega
  · intro ⟨share, member, here⟩
    have part := le_sum_map _ entry.shares (entryRate_part positive path) share member
    rw [if_pos here] at part
    have amount := positive share member
    omega

theorem carryingPaths_eq (snapshot : FabricSnapshot) : carryingPaths snapshot entry =
    (planningPaths snapshot).filter fun path => decide (0 < entryRate entry path.id) := by
  unfold carryingPaths
  apply List.filter_congr
  intro path _
  rw [Bool.eq_iff_iff]
  simp only [List.any_eq_true, Bool.and_eq_true, beq_iff_eq, decide_eq_true_eq,
    entryRate_pos positive]
  constructor
  · intro ⟨share, member, here, _⟩
    exact ⟨share, member, here⟩
  · intro ⟨share, member, here⟩
    exact ⟨share, member, here, positive share member⟩

end Rates

/-! The solver's shares are such rates. -/

section Concluded

variable {snapshot : FabricSnapshot} {permille : Int} (accepted : Accepted snapshot)
variable {problem : Problem} (safe : problem.Safe snapshot permille) (options : SolveOptions)

include accepted safe

theorem entryOf_positive {demand : Demand} (member : demand ∈ snapshot.demands) :
    ∀ share ∈ (entryOf options problem (derivedDemand snapshot demand)).shares, 0 < share.granted := by
  intro share listed
  exact (entryOf_share accepted safe member options listed).1

/-- No entry loads a resource beyond what the cap leaves of it. -/
theorem entryOf_load_le_cap (fits : overflowingResource snapshot = none) (nonneg : 0 ≤ permille)
    (bounded : permille ≤ snapshot.policy.maxUtilizationPermille) {demand : Demand}
    (member : demand ∈ snapshot.demands) {resource : FabricResource}
    (listed : resource ∈ snapshot.capacity.resources) :
    entryLoad snapshot resource.id (entryOf options problem (derivedDemand snapshot demand)) ≤
      min (publishedResidual snapshot resource).available
        (policyHeadroom snapshot.policy (publishedResidual snapshot resource)) := by
  have within := load_le_cap accepted safe fits nonneg bounded listed
  rw [← buildAllocation_load accepted safe options false resource.id] at within
  have part := le_sum_map (entryLoad snapshot resource.id) (buildAllocation options problem).demands (by
    intro entry inside
    obtain ⟨other, otherMember, rfl⟩ := (mem_buildAllocation safe options).mp inside
    apply sum_map_nonneg
    intro share carried
    have positive := entryOf_positive accepted safe options otherMember share carried
    exact shareLoad_nonneg resource.id (le_of_lt positive)) _
    ((mem_buildAllocation safe options).mpr ⟨demand, member, rfl⟩)
  exact part.trans within

/-- The shares of a demand that has its floor and bandwidth at all. -/
theorem entryOf_carriesFloor (fits : overflowingResource snapshot = none) (nonneg : 0 ≤ permille)
    (bounded : permille ≤ snapshot.policy.maxUtilizationPermille) {demand : Demand}
    (member : demand ∈ snapshot.demands)
    (floor : (derivedDemand snapshot demand).floor ≤ (problem.demandOf demand.id).granted)
    (granted : 0 < (entryOf options problem (derivedDemand snapshot demand)).granted) :
    CarriesFloor snapshot demand
      (entryRate (entryOf options problem (derivedDemand snapshot demand))) := by
  have positive := entryOf_positive accepted safe options member
  have total : ((planningPaths snapshot).map fun path =>
      entryRate (entryOf options problem (derivedDemand snapshot demand)) path.id).sum =
      (entryOf options problem (derivedDemand snapshot demand)).granted := by
    rw [entryOf_granted accepted safe member options]
    apply entryRate_total accepted
    intro share listed
    obtain ⟨-, -, found, -⟩ := entryOf_share accepted safe member options listed
    exact ⟨_, findPath_mem found⟩
  have range := entryOf_granted_range accepted safe member options
  refine ⟨entryRate_nonneg positive, ?_, by omega, ?_, by omega, ?_⟩
  · intro path _ rated
    obtain ⟨share, listed, here⟩ := (entryRate_pos positive path.id).mp rated
    obtain ⟨-, eligible, -⟩ := entryOf_share accepted safe member options listed
    rw [← here]
    exact eligible
  · rw [total]
    simpa [entryOf] using floor
  · intro resource listed
    rw [entryRate_load accepted]
    exact entryOf_load_le_cap accepted safe options fits nonneg bounded member listed

theorem conclude_diversified (forced : DiversityForced snapshot)
    (fits : overflowingResource snapshot = none) (nonneg : 0 ≤ permille)
    (bounded : permille ≤ snapshot.policy.maxUtilizationPermille) (iterations : Nat)
    (notes : List Text) (ceiling : Int) (conflict : Bool) :
    Diversified snapshot
      (conclude snapshot (derivation snapshot) options problem iterations notes ceiling conflict) := by
  intro feasible demand member active entry listed named granted
  obtain ⟨other, inside, rfl⟩ := (mem_buildAllocation safe options).mp listed
  have same : other = demand := by
    apply List.inj_on_of_nodup_map accepted.demand_checks.2 inside member
    rw [← named]
    simp [entryOf]
  subst same
  have admitted : ¬ PolicyExcludes snapshot.policy other := by
    intro excluded
    have none := withheld_granted accepted safe member (Or.inr excluded)
    simp only [entryOf, derivedDemand_demand] at granted
    omega
  have floor := conclude_feasible accepted safe options iterations notes ceiling conflict feasible
    member active
  rw [carryingPaths_eq (entryOf_positive accepted safe options member)]
  exact forced other member active admitted _
    (entryOf_carriesFloor accepted safe options fits nonneg bounded member floor granted)

end Concluded

/-- Where the solver constructs, and the constraints it does enforce leave a demand no narrower choice of
paths, a feasible outcome crosses the failure domains it asks for. Where it does not construct, no outcome
is feasible. -/
theorem solve_diversified {snapshot : FabricSnapshot} (accepted : Accepted snapshot)
    (forced : Constructs snapshot (derivation snapshot) → DiversityForced snapshot) {options : SolveOptions}
    {outcome : SolveOutcome}
    (solved : solve snapshot options = .ok outcome) : Diversified snapshot outcome := by
  have derives : ∃ derived, derive snapshot = .ok derived := by
    unfold solve at solved
    split at solved
    · cases solved
    · split at solved
      · cases solved
      · exact ⟨_, by assumption⟩
  obtain ⟨derived, derives⟩ := derives
  obtain ⟨-, rfl⟩ := solve_eq_ok derives solved
  obtain ⟨fits, rfl⟩ := (derive_eq_ok accepted derived).mp derives
  by_cases constructs : Constructs snapshot (derivation snapshot)
  · obtain ⟨nonneg, bounded⟩ := startingCeiling_range accepted (derivation snapshot)
    obtain ⟨permille, low, high, safe⟩ := constructed_safe accepted options nonneg bounded
    rw [solveDerived_constructs constructs]
    exact conclude_diversified accepted safe options (forced constructs) fits low high _ _ _ _
  · obtain ⟨-, refused⟩ := solveDerived_refuses accepted constructs options
    intro feasible
    rw [feasible] at refused
    rcases refused with status | status | status <;> cases status

/-! Two links in two racks, and a demand that asks for both. -/

def pathInRack (path : String) (resource : String) (rack : String) (cost : Int) : CandidatePath :=
  { linkPath with
    id := named path
    authority := ⟨named path, Gen.first⟩
    resources := [named resource]
    failureDomains := [named rack]
    cost := cost }

def racksFabric (paths : List CandidatePath) (asked : UInt32) : FabricSnapshot :=
  { linkFabric with
    capacity := { linkFabric.capacity with
      resources := [linkResource, { linkResource with id := named "link-2" }] }
    demands := [{ linkDemand with minDistinctFailureDomains := asked }]
    paths := paths }

def oneRack : FabricSnapshot := racksFabric [pathInRack "path-1" "link-1" "rack-1" 1] 1

def twoRacks : FabricSnapshot :=
  racksFabric [pathInRack "path-1" "link-1" "rack-1" 1, pathInRack "path-2" "link-2" "rack-2" 2] 2

theorem oneRack_forced : DiversityForced oneRack := by
  intro demand member _ _ rate carries
  have asked : demand.minDistinctFailureDomains = 1 := by
    rw [List.mem_singleton.mp member]
  have positive : 0 < rate (pathInRack "path-1" "link-1" "rack-1" 1).id := by
    simpa [planningPaths, oneRack, racksFabric] using carries.positive
  have carried : ((planningPaths oneRack).filter fun path => decide (0 < rate path.id)) =
      planningPaths oneRack := by
    apply List.filter_eq_self.mpr
    intro path candidate
    rw [List.mem_singleton.mp candidate]
    exact decide_eq_true positive
  rw [asked, carried]
  decide

theorem solve_diversified_oneRack :
    (solveDerived oneRack (derivation oneRack) {}).status = .feasible ∧
      Diversified oneRack (solveDerived oneRack (derivation oneRack) {}) := by
  have accepted : Accepted oneRack := accepted_of_checks _ (by decide +kernel) (by decide +kernel)
  have solved : solve oneRack {} = .ok (solveDerived oneRack (derivation oneRack) {}) :=
    solve_of_derives ((derive_eq_ok accepted _).mpr ⟨by decide +kernel, rfl⟩) (by decide)
  exact ⟨by decide +kernel, solve_diversified accepted (fun _ => oneRack_forced) solved⟩

/-- The cheaper path carries the whole demand, and the outcome is offered as feasible. -/
theorem twoRacks_not_diversified : ¬ ∀ (snapshot : FabricSnapshot), Accepted snapshot →
    ∀ (options : SolveOptions) (outcome : SolveOutcome), solve snapshot options = .ok outcome →
      Diversified snapshot outcome := by
  intro always
  have accepted : Accepted twoRacks := accepted_of_checks _ (by decide +kernel) (by decide +kernel)
  have solved : solve twoRacks {} = .ok (solveDerived twoRacks (derivation twoRacks) {}) :=
    solve_of_derives ((derive_eq_ok accepted _).mpr ⟨by decide +kernel, rfl⟩) (by decide)
  have kept := always twoRacks accepted {} _ solved (by decide +kernel)
    (twoRacks.demands.headD default) (by decide) (by decide)
  have narrow : ∃ entry ∈ (solveDerived twoRacks (derivation twoRacks) {}).allocation.demands,
      entry.demand = (twoRacks.demands.headD default).id ∧ 0 < entry.granted ∧
      (crossedDomains (carryingPaths twoRacks entry)).length <
        (twoRacks.demands.headD default).minDistinctFailureDomains.toNat := by
    decide +kernel
  obtain ⟨entry, listed, asked, granted, short⟩ := narrow
  have wide := kept entry listed asked granted
  omega

end TrafficFabric
