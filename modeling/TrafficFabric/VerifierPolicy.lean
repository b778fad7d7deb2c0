import TrafficFabric.Verifier

set_option autoImplicit false

/- The verifier reads availability and eligibility only. Whether what it accepts also
stays inside the policy is therefore a property of the fabric: of the loads that its
usable paths can carry. -/
namespace TrafficFabric

/-- What the policy's utilisation cap leaves of a resource for new allocations. -/
def policyHeadroom (policy : Policy) (residual : ResourceResidual) : Int :=
  max 0 (residual.usableCapacity * policy.maxUtilizationPermille / 1000 -
    residual.committedLoad - residual.reserved)

/-- The policy names tenants or service classes, and the demand's is not among them. -/
def PolicyExcludes (policy : Policy) (demand : Demand) : Prop :=
  (policy.allowedTenants ≠ [] ∧ demand.tenant ∉ policy.allowedTenants) ∨
    (policy.allowedServiceClasses ≠ [] ∧ demand.serviceClass ∉ policy.allowedServiceClasses)

structure PolicyRespected (snapshot : FabricSnapshot) (derived : Derivation)
    (allocation : Allocation) : Prop where
  headroom : ∀ residual ∈ derived.residuals,
    allocationLoad snapshot allocation residual.resource ≤ policyHeadroom snapshot.policy residual
  excluded : ∀ demand ∈ snapshot.demands, PolicyExcludes snapshot.policy demand →
    ∀ entry ∈ allocation.demands, entry.demand = demand.id → entry.granted ≤ 0

/-- The verifier lets the demand put bandwidth on the path. -/
structure UsablePath (snapshot : FabricSnapshot) (demand : DemandDerivation) (path : PathFacts) :
    Prop where
  candidate : path ∈ planningPaths snapshot
  eligible : path.id ∈ demand.eligiblePaths
  authorized : path.authority.generation = snapshot.pathAuthorityGeneration
  wanted : 0 < demand.maximum

def pathRateLoad (snapshot : FabricSnapshot) (rate : PathId → Int) (resource : ResourceId) : Int :=
  ((planningPaths snapshot).map fun path =>
    if resource ∈ path.resources then rate path.id else 0).sum

/-- Rates on usable paths that availability can carry. -/
structure PathRates (snapshot : FabricSnapshot) (derived : Derivation) (rate : PathId → Int) :
    Prop where
  nonneg : ∀ path, 0 ≤ rate path
  usable : ∀ path ∈ planningPaths snapshot, 0 < rate path.id →
    ∃ expected ∈ derived.demands, UsablePath snapshot expected path
  capacity : ∀ residual ∈ derived.residuals,
    pathRateLoad snapshot rate residual.resource ≤ residual.available

/-- The policy forbids nothing that availability and eligibility would allow. -/
structure PolicyNeverBinds (snapshot : FabricSnapshot) (derived : Derivation) : Prop where
  cap : ∀ rate, PathRates snapshot derived rate → ∀ residual ∈ derived.residuals,
    pathRateLoad snapshot rate residual.resource ≤ policyHeadroom snapshot.policy residual
  exclusion : ∀ demand ∈ snapshot.demands, PolicyExcludes snapshot.policy demand →
    ∀ expected ∈ derived.demands, expected.demand = demand.id →
    ∀ path, UsablePath snapshot expected path →
      ∃ residual ∈ derived.residuals, residual.resource ∈ path.resources ∧ residual.available ≤ 0

/-! From rates to an allocation the verifier accepts: one entry for every unit. -/

def unitEntry (demand : Demand) (path : PathFacts) : DemandAllocation :=
  { demand := demand.id
    generation := demand.generation
    granted := 1
    shares := [{ path := path.id, generation := path.generation, granted := 1 }] }

def unitAllocation (snapshot : FabricSnapshot) (pick : PathFacts → Demand) (rate : PathId → Int) :
    Allocation :=
  { demands := (planningPaths snapshot).flatMap fun path =>
      List.replicate (rate path.id).toNat (unitEntry (pick path) path)
    degraded := true }

section Units

variable {snapshot : FabricSnapshot}

theorem unitEntry_sound (accepted : Accepted snapshot) {demand : Demand} {path : PathFacts}
    (usable : UsablePath snapshot (derivedDemand snapshot demand) path) :
    EntrySound snapshot true (derivedDemand snapshot demand) (unitEntry demand path) := by
  have wanted := usable.wanted
  have found := findPath_eq_some accepted usable.candidate
  refine ⟨by simp [unitEntry], ⟨?_, ?_, by simp [unitEntry], by simp⟩, by simp [unitEntry], ?_, ?_,
    by simp⟩
  · intro share member
    rw [unitEntry, List.mem_singleton] at member
    subst member
    show (0 : Int) ≤ 1
    omega
  · intro share member _
    rw [unitEntry, List.mem_singleton] at member
    subst member
    exact ⟨usable.eligible, path, found, rfl, usable.authorized⟩
  · show satAdd 0 0 ≤ 1
    decide
  · show (1 : Int) ≤ (derivedDemand snapshot demand).maximum
    omega

theorem unitEntry_load (accepted : Accepted snapshot) (demand : Demand) {path : PathFacts}
    (candidate : path ∈ planningPaths snapshot) (resource : ResourceId) :
    entryLoad snapshot resource (unitEntry demand path) =
      if resource ∈ path.resources then 1 else 0 := by
  have found := findPath_eq_some accepted candidate
  simp [entryLoad, unitEntry, shareLoad, found]

theorem unitAllocation_load (accepted : Accepted snapshot) (pick : PathFacts → Demand)
    (rate : PathId → Int) (nonneg : ∀ path, 0 ≤ rate path) (resource : ResourceId) :
    allocationLoad snapshot (unitAllocation snapshot pick rate) resource =
      pathRateLoad snapshot rate resource := by
  unfold allocationLoad unitAllocation pathRateLoad
  rw [sum_map_flatMap]
  congr 1
  apply List.map_congr_left
  intro path candidate
  have units : ((rate path.id).toNat : Int) = rate path.id := Int.toNat_of_nonneg (nonneg path.id)
  rw [List.map_replicate, List.sum_replicate, unitEntry_load accepted (pick path) candidate]
  split
  · simp [units]
  · simp

/-- Rates within availability become an allocation without a violation. -/
theorem unitAllocation_verified (accepted : Accepted snapshot)
    (fits : overflowingResource snapshot = none) (pick : PathFacts → Demand) (rate : PathId → Int)
    (nonneg : ∀ path, 0 ≤ rate path)
    (usable : ∀ path ∈ planningPaths snapshot, 0 < rate path.id →
      pick path ∈ snapshot.demands ∧
        UsablePath snapshot (derivedDemand snapshot (pick path)) path)
    (capacity : ∀ residual ∈ (derivation snapshot).residuals,
      pathRateLoad snapshot rate residual.resource ≤ residual.available) :
    verifyAllocation snapshot (unitAllocation snapshot pick rate) = [] := by
  apply (verifyAllocation_eq_nil accepted _).mpr
  refine ⟨fits, ?_, ?_⟩
  · intro entry member
    obtain ⟨path, candidate, copies⟩ := List.mem_flatMap.mp member
    obtain ⟨some_, rfl⟩ := List.mem_replicate.mp copies
    have positive : 0 < rate path.id := by omega
    obtain ⟨inside, usablePath⟩ := usable path candidate positive
    exact ⟨pick path, inside, rfl, unitEntry_sound accepted usablePath⟩
  · intro resource member
    have bound := capacity _ (List.mem_map.mpr ⟨resource, member, rfl⟩)
    rw [unitAllocation_load accepted pick rate nonneg]
    exact bound

end Units

/-! From a verified allocation back to rates. -/

def allShares (allocation : Allocation) : List PathShare :=
  allocation.demands.flatMap DemandAllocation.shares

def rateOn (allocation : Allocation) (path : PathId) : Int :=
  ((allShares allocation).map fun share => if share.path = path then share.granted else 0).sum

theorem allocationLoad_eq_shares (snapshot : FabricSnapshot) (allocation : Allocation)
    (resource : ResourceId) :
    allocationLoad snapshot allocation resource =
      ((allShares allocation).map (shareLoad snapshot resource)).sum := by
  rw [allShares, sum_map_flatMap]
  rfl

theorem shareLoad_eq_sum {snapshot : FabricSnapshot} (accepted : Accepted snapshot)
    (resource : ResourceId) (share : PathShare) :
    ((planningPaths snapshot).map fun path => if resource ∈ path.resources then
      if share.path = path.id then share.granted else 0 else 0).sum =
        shareLoad snapshot resource share := by
  unfold shareLoad
  cases found : findPath snapshot share.path with
  | none =>
      apply sum_map_eq_zero
      intro path member
      have different := List.find?_eq_none.mp found path member
      have other : share.path ≠ path.id := fun same => different (by simp [same])
      rw [if_neg other, ite_self]
  | some path =>
      obtain ⟨member, same⟩ := findPath_mem found
      have single := sum_map_of_key PathFacts.id
        (fun candidate => if resource ∈ candidate.resources then share.granted else 0)
        (planningPaths snapshot) (planningPaths_nodup accepted) path member
      have swapped : ((planningPaths snapshot).map fun candidate =>
          if resource ∈ candidate.resources then
            if share.path = candidate.id then share.granted else 0 else 0) =
          (planningPaths snapshot).map fun candidate => if candidate.id = path.id then
            if resource ∈ candidate.resources then share.granted else 0 else 0 := by
        apply List.map_congr_left
        intro candidate _
        rw [same]
        by_cases here : share.path = candidate.id
        · simp [here]
        · simp [here, Ne.symm here]
      rw [swapped, single]
      simp

theorem pathRateLoad_rateOn {snapshot : FabricSnapshot} (accepted : Accepted snapshot)
    (allocation : Allocation) (resource : ResourceId) :
    pathRateLoad snapshot (rateOn allocation) resource =
      allocationLoad snapshot allocation resource := by
  have inner : ∀ path : PathFacts,
      (if resource ∈ path.resources then rateOn allocation path.id else 0) =
        ((allShares allocation).map fun share => if resource ∈ path.resources then
          if share.path = path.id then share.granted else 0 else 0).sum := by
    intro path
    by_cases crosses : resource ∈ path.resources
    · simp only [crosses, ↓reduceIte, rateOn]
    · simp [crosses]
  unfold pathRateLoad
  simp only [inner]
  rw [sum_map_comm, allocationLoad_eq_shares]
  congr 1
  apply List.map_congr_left
  intro share _
  exact shareLoad_eq_sum accepted resource share

section VerifiedAllocations

variable {snapshot : FabricSnapshot} {allocation : Allocation}

/-- A share with bandwidth on it uses a path the verifier lets its demand use. -/
theorem Verified.usable (verified : Verified snapshot allocation) {entry : DemandAllocation}
    (member : entry ∈ allocation.demands) {share : PathShare} (inside : share ∈ entry.shares)
    (positive : 0 < share.granted) :
    ∃ demand ∈ snapshot.demands, demand.id = entry.demand ∧ ∃ path, path.id = share.path ∧
      UsablePath snapshot (derivedDemand snapshot demand) path := by
  obtain ⟨demand, demandMember, same, sound⟩ := verified.entries entry member
  obtain ⟨eligible, path, found, -, authorized⟩ := sound.shares.placed share inside (by omega)
  obtain ⟨candidate, pathId⟩ := findPath_mem found
  have part := le_sum_map PathShare.granted entry.shares sound.shares.nonneg share inside
  have exact := sound.exact
  have maximum := sound.maximum
  exact ⟨demand, demandMember, same, path, pathId, candidate, pathId ▸ eligible, authorized,
    by omega⟩

theorem Verified.shares_nonneg (verified : Verified snapshot allocation) :
    ∀ share ∈ allShares allocation, 0 ≤ share.granted := by
  intro share member
  obtain ⟨entry, entryMember, inside⟩ := List.mem_flatMap.mp member
  obtain ⟨_, _, _, sound⟩ := verified.entries entry entryMember
  exact sound.shares.nonneg share inside

theorem Verified.rates (accepted : Accepted snapshot) (verified : Verified snapshot allocation) :
    PathRates snapshot (derivation snapshot) (rateOn allocation) := by
  have nonneg := verified.shares_nonneg
  have part : ∀ path, ∀ share ∈ allShares allocation,
      0 ≤ if share.path = path then share.granted else 0 := by
    intro path share member
    have amount := nonneg share member
    split <;> omega
  refine ⟨fun path => sum_map_nonneg _ _ (part path), ?_, ?_⟩
  · intro path candidate positive
    -- A positive sum has a positive part.
    have carrier : ∃ share ∈ allShares allocation, share.path = path.id ∧ 0 < share.granted := by
      by_contra none
      have zero : rateOn allocation path.id = 0 := by
        apply sum_map_eq_zero
        intro share member
        by_cases here : share.path = path.id
        · have small : ¬ 0 < share.granted := fun large => none ⟨share, member, here, large⟩
          have amount := nonneg share member
          rw [if_pos here]
          omega
        · rw [if_neg here]
      omega
    obtain ⟨share, member, here, amount⟩ := carrier
    obtain ⟨entry, entryMember, inside⟩ := List.mem_flatMap.mp member
    obtain ⟨demand, demandMember, -, other, otherId, usable⟩ :=
      verified.usable entryMember inside amount
    have same : other = path := List.inj_on_of_nodup_map (planningPaths_nodup accepted)
      usable.candidate candidate (otherId.trans here)
    exact ⟨_, List.mem_map.mpr ⟨demand, demandMember, rfl⟩, same ▸ usable⟩
  · intro residual member
    obtain ⟨resource, inside, rfl⟩ := List.mem_map.mp member
    rw [pathRateLoad_rateOn accepted]
    exact verified.capacity resource inside

end VerifiedAllocations

/-- A share loads every resource of its path. -/
theorem Verified.share_le_available {snapshot : FabricSnapshot} {allocation : Allocation}
    (accepted : Accepted snapshot) (verified : Verified snapshot allocation)
    {share : PathShare} (member : share ∈ allShares allocation) {path : PathFacts}
    (candidate : path ∈ planningPaths snapshot) (same : path.id = share.path)
    {residual : ResourceResidual} (residualMember : residual ∈ (derivation snapshot).residuals)
    (crosses : residual.resource ∈ path.resources) : share.granted ≤ residual.available := by
  obtain ⟨resource, inside, rfl⟩ := List.mem_map.mp residualMember
  have found := findPath_eq_some accepted candidate
  have load : shareLoad snapshot resource.id share = share.granted := by
    have here : resource.id ∈ path.resources := crosses
    simp [shareLoad, ← same, found, here]
  have part := le_sum_map (shareLoad snapshot resource.id) (allShares allocation)
    (fun other otherMember => shareLoad_nonneg _ (verified.shares_nonneg other otherMember))
    share member
  rw [load, ← allocationLoad_eq_shares] at part
  exact part.trans (verified.capacity resource inside)

/-- One unit on one path. -/
def unitRate (path : PathId) : PathId → Int := fun id => if id = path then 1 else 0

theorem pathRateLoad_unitRate {snapshot : FabricSnapshot} (accepted : Accepted snapshot)
    {path : PathFacts} (candidate : path ∈ planningPaths snapshot) (resource : ResourceId) :
    pathRateLoad snapshot (unitRate path.id) resource =
      if resource ∈ path.resources then 1 else 0 := by
  have single := sum_map_of_key PathFacts.id
    (fun other => if resource ∈ other.resources then (1 : Int) else 0)
    (planningPaths snapshot) (planningPaths_nodup accepted) path candidate
  rw [← single]
  unfold pathRateLoad
  congr 1
  apply List.map_congr_left
  intro other _
  by_cases here : other.id = path.id
  · simp [unitRate, here]
  · simp [unitRate, here]

/-- The property in question: whatever the verifier accepts respects the policy. -/
def VerifierEnforcesPolicy (snapshot : FabricSnapshot) : Prop :=
  ∀ allocation, verifyAllocation snapshot allocation = [] →
    ∀ derived, derive snapshot = .ok derived → PolicyRespected snapshot derived allocation

section Enforcement

variable {snapshot : FabricSnapshot}

theorem cap_of_enforced (accepted : Accepted snapshot) (fits : overflowingResource snapshot = none)
    (enforced : VerifierEnforcesPolicy snapshot) (rate : PathId → Int)
    (rates : PathRates snapshot (derivation snapshot) rate) (residual : ResourceResidual)
    (member : residual ∈ (derivation snapshot).residuals) :
    pathRateLoad snapshot rate residual.resource ≤ policyHeadroom snapshot.policy residual := by
  have success : derive snapshot = .ok (derivation snapshot) :=
    (derive_eq_ok accepted _).mpr ⟨fits, rfl⟩
  -- Every path with a rate on it gets a demand to carry the rate for.
  have choice : ∀ path : PathFacts, ∃ demand : Demand,
      path ∈ planningPaths snapshot → 0 < rate path.id → demand ∈ snapshot.demands ∧
        UsablePath snapshot (derivedDemand snapshot demand) path := by
    intro path
    by_cases carried : path ∈ planningPaths snapshot ∧ 0 < rate path.id
    · obtain ⟨expected, expectedMember, usable⟩ := rates.usable path carried.1 carried.2
      obtain ⟨demand, inside, rfl⟩ := List.mem_map.mp expectedMember
      exact ⟨demand, fun _ _ => ⟨inside, usable⟩⟩
    · exact ⟨default, fun candidate positive => absurd ⟨candidate, positive⟩ carried⟩
  choose pick picked using choice
  have passed := unitAllocation_verified accepted fits pick rate rates.nonneg picked rates.capacity
  have respected := (enforced _ passed _ success).headroom residual member
  rw [unitAllocation_load accepted pick rate rates.nonneg] at respected
  exact respected

theorem exclusion_of_enforced (accepted : Accepted snapshot)
    (fits : overflowingResource snapshot = none) (enforced : VerifierEnforcesPolicy snapshot)
    {demand : Demand} (member : demand ∈ snapshot.demands)
    (excluded : PolicyExcludes snapshot.policy demand) (path : PathFacts)
    (usable : UsablePath snapshot (derivedDemand snapshot demand) path) :
    ∃ residual ∈ (derivation snapshot).residuals,
      residual.resource ∈ path.resources ∧ residual.available ≤ 0 := by
  have success : derive snapshot = .ok (derivation snapshot) :=
    (derive_eq_ok accepted _).mpr ⟨fits, rfl⟩
  by_contra free
  -- One unit on that path alone fits, and the verifier accepts it.
  have nonneg : ∀ id, 0 ≤ unitRate path.id id := by
    intro id
    unfold unitRate
    split <;> omega
  have only : ∀ candidate ∈ planningPaths snapshot, 0 < unitRate path.id candidate.id →
      demand ∈ snapshot.demands ∧
        UsablePath snapshot (derivedDemand snapshot demand) candidate := by
    intro candidate inside positive
    have here : candidate.id = path.id := by
      by_contra different
      simp [unitRate, different] at positive
    rw [List.inj_on_of_nodup_map (planningPaths_nodup accepted) inside usable.candidate here]
    exact ⟨member, usable⟩
  have capacity : ∀ residual ∈ (derivation snapshot).residuals,
      pathRateLoad snapshot (unitRate path.id) residual.resource ≤ residual.available := by
    intro residual inside
    rw [pathRateLoad_unitRate accepted usable.candidate]
    obtain ⟨resource, resourceMember, rfl⟩ := List.mem_map.mp inside
    have facts := publishedResidual_facts accepted resourceMember
    split
    · rename_i crosses
      have open_ : ¬ (publishedResidual snapshot resource).available ≤ 0 := fun closed =>
        free ⟨_, inside, crosses, closed⟩
      omega
    · omega
  have passed := unitAllocation_verified accepted fits (fun _ => demand) (unitRate path.id) nonneg
    only capacity
  have listed : unitEntry demand path ∈
      (unitAllocation snapshot (fun _ => demand) (unitRate path.id)).demands :=
    List.mem_flatMap.mpr ⟨path, usable.candidate, by simp [unitRate]⟩
  have respected := (enforced _ passed _ success).excluded demand member excluded _ listed rfl
  exact absurd respected (show ¬ (1 : Int) ≤ 0 by decide)

theorem respected_of_neverBinds (accepted : Accepted snapshot) {allocation : Allocation}
    (verified : Verified snapshot allocation)
    (never : PolicyNeverBinds snapshot (derivation snapshot)) :
    PolicyRespected snapshot (derivation snapshot) allocation := by
  constructor
  · intro residual member
    have bound := never.cap _ (verified.rates accepted) residual member
    rw [pathRateLoad_rateOn accepted] at bound
    exact bound
  · intro demand demandMember excluded entry entryMember same
    by_contra positive
    obtain ⟨other, otherMember, otherSame, sound⟩ := verified.entries entry entryMember
    have carrier : ∃ share ∈ entry.shares, 0 < share.granted := by
      by_contra none
      have zero := sum_map_eq_zero PathShare.granted entry.shares (by
        intro share member
        have amount := sound.shares.nonneg share member
        have small : ¬ 0 < share.granted := fun large => none ⟨share, member, large⟩
        omega)
      have exact := sound.exact
      omega
    obtain ⟨share, shareMember, amount⟩ := carrier
    obtain ⟨carrierDemand, carrierMember, carrierSame, path, pathId, usable⟩ :=
      verified.usable entryMember shareMember amount
    have carrierEq : carrierDemand = demand := List.inj_on_of_nodup_map accepted.demand_checks.2
      carrierMember demandMember (carrierSame.trans same)
    subst carrierEq
    obtain ⟨residual, residualMember, crosses, closed⟩ := never.exclusion carrierDemand
      demandMember excluded _ (List.mem_map.mpr ⟨carrierDemand, demandMember, rfl⟩)
      (derivedDemand_demand snapshot carrierDemand) path usable
    have bound := verified.share_le_available accepted
      (List.mem_flatMap.mpr ⟨entry, entryMember, shareMember⟩) usable.candidate pathId
      residualMember crosses
    omega

end Enforcement

/-- Verification implies the policy's limits exactly on the fabrics where the policy
forbids nothing that availability and eligibility would allow. -/
theorem verifierEnforcesPolicy_iff {snapshot : FabricSnapshot} (accepted : Accepted snapshot) :
    VerifierEnforcesPolicy snapshot ↔
      ∀ derived, derive snapshot = .ok derived → PolicyNeverBinds snapshot derived := by
  constructor
  · intro enforced derived success
    obtain ⟨fits, rfl⟩ := (derive_eq_ok accepted derived).mp success
    refine ⟨cap_of_enforced accepted fits enforced, ?_⟩
    intro demand member excluded expected expectedMember same path usable
    obtain ⟨other, otherMember, rfl⟩ := List.mem_map.mp expectedMember
    rw [derivedDemand_demand] at same
    have demandEq : other = demand :=
      List.inj_on_of_nodup_map accepted.demand_checks.2 otherMember member same
    subst demandEq
    exact exclusion_of_enforced accepted fits enforced member excluded path usable
  · intro binds allocation passed derived success
    have never := binds derived success
    obtain ⟨-, rfl⟩ := (derive_eq_ok accepted derived).mp success
    exact respected_of_neverBinds accepted
      ((verifyAllocation_eq_nil accepted allocation).mp passed) never

/-- The mesh with a policy that shuts out the second demand's tenant, and no capacity on the third link. -/
def sealedFabric : FabricSnapshot :=
  { meshFabric with
    policy := { meshFabric.policy with allowedTenants := [named "tenant-1"] }
    capacity := { meshFabric.capacity with
      resources := [meshResource "link-1" 100, meshResource "link-2" 60, meshResource "link-3" 0] }
    demands := meshFabric.demands.map fun demand =>
      if demand.id = linkDemand.id then demand else { demand with tenant := named "tenant-2" } }

theorem sealedFabric_accepted : Accepted sealedFabric :=
  accepted_of_checks sealedFabric (by decide +kernel) (by decide +kernel)

/-- Nothing is left on the link that every path of the excluded demand crosses. -/
theorem sealedFabric_neverBinds : PolicyNeverBinds sealedFabric (derivation sealedFabric) where
  cap := by
    have headroom : ∀ residual ∈ (derivation sealedFabric).residuals,
        residual.available ≤ policyHeadroom sealedFabric.policy residual := by decide +kernel
    intro rate rates residual member
    exact (rates.capacity residual member).trans (headroom residual member)
  exclusion := by
    have closed : ∀ expected ∈ (derivation sealedFabric).demands, expected.demand ≠ linkDemand.id →
        ∀ path ∈ planningPaths sealedFabric, path.id ∈ expected.eligiblePaths →
          ∃ residual ∈ (derivation sealedFabric).residuals, residual.resource ∈ path.resources ∧
            residual.available ≤ 0 := by decide +kernel
    have shutOut : ∀ demand ∈ sealedFabric.demands, demand.id = linkDemand.id →
        demand.tenant ∈ sealedFabric.policy.allowedTenants := by decide
    intro demand asked excluded expected member same path usable
    refine closed expected member ?_ path usable.candidate usable.eligible
    intro first
    rcases excluded with ⟨-, tenant⟩ | ⟨classes, -⟩
    · exact tenant (shutOut demand asked (same.symm.trans first))
    · exact classes rfl

/-- The policy excludes a demand, and the verifier accepts no allocation that serves it. -/
theorem verifierEnforcesPolicy_iff_sealedFabric :
    (∃ demand ∈ sealedFabric.demands, PolicyExcludes sealedFabric.policy demand) ∧
      VerifierEnforcesPolicy sealedFabric := by
  constructor
  · have excluded : ∃ demand ∈ sealedFabric.demands, sealedFabric.policy.allowedTenants ≠ [] ∧
        demand.tenant ∉ sealedFabric.policy.allowedTenants := by decide
    obtain ⟨demand, asked, tenant⟩ := excluded
    exact ⟨demand, asked, Or.inl tenant⟩
  · apply (verifierEnforcesPolicy_iff sealedFabric_accepted).mpr
    intro derived success
    obtain ⟨-, rfl⟩ := (derive_eq_ok sealedFabric_accepted derived).mp success
    exact sealedFabric_neverBinds

/-- The link with a utilisation cap of five permille and a policy for another tenant. -/
def cappedFabric : FabricSnapshot :=
  { linkFabric with
    policy := { linkFabric.policy with
      maxUtilizationPermille := 5
      allowedTenants := [named "tenant-2"] } }

/-- Ten units for the excluded tenant on a link whose cap leaves no headroom: the
verifier accepts them. -/
theorem cappedFabric_linkAllocation_accepted :
    Accepted cappedFabric ∧ verifyAllocation cappedFabric linkAllocation = [] ∧
    ∃ derived, derive cappedFabric = .ok derived ∧
      (∃ residual ∈ derived.residuals, policyHeadroom cappedFabric.policy residual <
        allocationLoad cappedFabric linkAllocation residual.resource) ∧
      (PolicyExcludes cappedFabric.policy linkDemand ∧
        ∃ entry ∈ linkAllocation.demands, entry.demand = linkDemand.id ∧ 0 < entry.granted) ∧
      ¬ PolicyRespected cappedFabric derived linkAllocation := by
  have accepted : Accepted cappedFabric :=
    accepted_of_checks cappedFabric (by decide +kernel) (by decide +kernel)
  have success : derive cappedFabric = .ok (derivation cappedFabric) :=
    (derive_eq_ok accepted _).mpr ⟨by decide +kernel, rfl⟩
  have member : publishedResidual cappedFabric linkResource ∈ (derivation cappedFabric).residuals :=
    List.mem_singleton.mpr rfl
  have exceeded : policyHeadroom cappedFabric.policy (publishedResidual cappedFabric linkResource) <
      allocationLoad cappedFabric linkAllocation linkResource.id := by decide +kernel
  have excluded : PolicyExcludes cappedFabric.policy linkDemand :=
    Or.inl ⟨by decide +kernel, by decide +kernel⟩
  refine ⟨accepted, by decide +kernel, _, success, ⟨_, member, exceeded⟩,
    ⟨excluded, _, List.mem_singleton.mpr rfl, rfl, by decide +kernel⟩, ?_⟩
  intro respected
  have bound := respected.headroom _ member
  exact absurd exceeded (not_lt.mpr bound)

end TrafficFabric
