import TrafficFabric.Verifier

set_option autoImplicit false

namespace TrafficFabric

/-- The hard invariants of one entry against the snapshot and its derivation. -/
structure EntryInvariant (snapshot : FabricSnapshot) (derived : Derivation)
    (entry : DemandAllocation) : Prop where
  current : ∃ demand ∈ snapshot.demands, demand.id = entry.demand ∧
    demand.generation = entry.generation ∧
    (entry.shares.map PathShare.granted).sum ≤ demand.maximumBandwidth
  distinct : (entry.shares.map PathShare.path).Nodup
  nonneg : ∀ share ∈ entry.shares, 0 ≤ share.granted
  exact : (entry.shares.map PathShare.granted).sum = entry.granted
  placed : ∀ share ∈ entry.shares, 0 < share.granted →
    (∃ expected ∈ derived.demands, expected.demand = entry.demand ∧
      share.path ∈ expected.eligiblePaths) ∧
    ∃ path ∈ snapshot.paths, path.id = share.path ∧ path.generation = share.generation ∧
      path.authority.generation = snapshot.pathAuthorityGeneration

theorem SharePlaced.path {snapshot : FabricSnapshot} {demand : DemandDerivation}
    {share : PathShare} (placed : SharePlaced snapshot demand share) :
    ∃ path ∈ snapshot.paths, path.id = share.path ∧ path.generation = share.generation ∧
      path.authority.generation = snapshot.pathAuthorityGeneration := by
  obtain ⟨facts, found, generation, authority⟩ := placed.current
  obtain ⟨member, same⟩ := findPath_mem found
  obtain ⟨path, inside, rfl⟩ := List.mem_map.mp member
  exact ⟨path, inside, same, generation.symm, authority⟩

/-- An empty violation list proves every hard invariant of every entry, and the exact
load of every resource stays within what is available on it. -/
theorem verifyAllocation_sound {snapshot : FabricSnapshot} {allocation : Allocation}
    (accepted : Accepted snapshot) (passed : verifyAllocation snapshot allocation = []) :
    ∃ derived, derive snapshot = .ok derived ∧
      (∀ entry ∈ allocation.demands, EntryInvariant snapshot derived entry) ∧
      ∀ residual ∈ derived.residuals,
        allocationLoad snapshot allocation residual.resource ≤ residual.available := by
  have verified := (verifyAllocation_eq_nil accepted allocation).mp passed
  refine ⟨derivation snapshot, (derive_eq_ok accepted _).mpr ⟨verified.fits, rfl⟩, ?_, ?_⟩
  · intro entry member
    obtain ⟨demand, inside, same, sound⟩ := verified.entries entry member
    have generation := sound.generation
    have maximum := sound.maximum
    rw [derivedDemand_generation] at generation
    rw [derivedDemand_maximum, sound.exact] at maximum
    refine ⟨⟨demand, inside, same, generation.symm, maximum⟩, sound.shares.distinct,
      sound.shares.nonneg, sound.exact.symm, ?_⟩
    intro share shareMember positive
    have placed := sound.shares.placed share shareMember (by omega)
    refine ⟨⟨derivedDemand snapshot demand, List.mem_map.mpr ⟨demand, inside, rfl⟩, ?_,
      placed.eligible⟩, placed.path⟩
    rw [derivedDemand_demand, same]
  · intro residual member
    obtain ⟨resource, inside, rfl⟩ := List.mem_map.mp member
    rw [(publishedResidual_facts accepted inside).1]
    exact verified.capacity resource inside

theorem verifyAllocation_sound_linkAllocation :
    verifyAllocation linkFabric linkAllocation = [] ∧
    ∃ derived, derive linkFabric = .ok derived ∧
      (∀ entry ∈ linkAllocation.demands, EntryInvariant linkFabric derived entry) ∧
      ∀ residual ∈ derived.residuals,
        allocationLoad linkFabric linkAllocation residual.resource ≤ residual.available :=
  have passed : verifyAllocation linkFabric linkAllocation = [] := by decide +kernel
  ⟨passed, verifyAllocation_sound linkFabric_accepted passed⟩

/-! Totals over all entries of a demand. -/

def entriesOf (allocation : Allocation) (demand : DemandId) : List DemandAllocation :=
  allocation.demands.filter (fun entry => entry.demand == demand)

def totalGrantedTo (allocation : Allocation) (demand : DemandId) : Int :=
  ((entriesOf allocation demand).map DemandAllocation.granted).sum

/-- Every active demand is granted at least its floor and at most its maximum. -/
def ActiveDemandsServed (derived : Derivation) (allocation : Allocation) : Prop :=
  ∀ expected ∈ derived.demands, expected.active = true →
    expected.floor ≤ totalGrantedTo allocation expected.demand ∧
      totalGrantedTo allocation expected.demand ≤ expected.maximum

/-- No active demand with a floor is left out, and the entries of a demand listed
repeatedly do not add up to more than its maximum. -/
def ActiveDemandsListed (derived : Derivation) (allocation : Allocation) : Prop :=
  ∀ expected ∈ derived.demands, expected.active = true →
    (0 < expected.floor → entriesOf allocation expected.demand ≠ []) ∧
      (1 < (entriesOf allocation expected.demand).length →
        totalGrantedTo allocation expected.demand ≤ expected.maximum)

theorem entriesOf_sound {snapshot : FabricSnapshot} {allocation : Allocation}
    (accepted : Accepted snapshot) (verified : Verified snapshot allocation) {demand : Demand}
    (member : demand ∈ snapshot.demands) :
    ∀ entry ∈ entriesOf allocation demand.id,
      EntrySound snapshot allocation.degraded (derivedDemand snapshot demand) entry := by
  intro entry listed
  obtain ⟨inside, same⟩ := List.mem_filter.mp listed
  obtain ⟨other, otherMember, sameId, sound⟩ := verified.entries entry inside
  have ids : other.id = demand.id := sameId.trans (by simpa using same)
  rw [List.inj_on_of_nodup_map accepted.demand_checks.2 otherMember member ids] at sound
  exact sound

/-- What verification leaves open: the verifier looks at one entry at a time, so it
bounds the totals exactly when active demands are neither left out nor listed twice
beyond their maximum. -/
theorem activeDemandsServed_iff {snapshot : FabricSnapshot} {allocation : Allocation}
    {derived : Derivation} (accepted : Accepted snapshot) (success : derive snapshot = .ok derived)
    (complete : allocation.degraded = false) (passed : verifyAllocation snapshot allocation = []) :
    ActiveDemandsServed derived allocation ↔ ActiveDemandsListed derived allocation := by
  obtain ⟨-, rfl⟩ := (derive_eq_ok accepted derived).mp success
  have verified := (verifyAllocation_eq_nil accepted allocation).mp passed
  unfold ActiveDemandsServed ActiveDemandsListed
  refine forall₃_congr ?_
  intro expected expectedMember active
  obtain ⟨demand, member, rfl⟩ := List.mem_map.mp expectedMember
  have sound := entriesOf_sound accepted verified member
  have nonneg := derivedDemand_floor_nonneg accepted member
  have range := accepted.demand_range member
  rw [derivedDemand_demand]
  constructor
  · rintro ⟨floor, maximum⟩
    refine ⟨?_, fun _ => maximum⟩
    intro positive missing
    rw [totalGrantedTo, missing] at floor
    simp only [List.map_nil, List.sum_nil] at floor
    omega
  · rintro ⟨listed, repeated⟩
    unfold totalGrantedTo at repeated ⊢
    cases shape : entriesOf allocation demand.id with
    | nil =>
        have zero : ¬ 0 < (derivedDemand snapshot demand).floor := fun positive =>
          listed positive shape
        rw [derivedDemand_maximum]
        simp only [List.map_nil, List.sum_nil]
        omega
    | cons first rest =>
        rw [shape] at sound repeated
        have firstSound := sound first List.mem_cons_self
        have floor := firstSound.floor active complete
        -- Further entries only add: each of them is a sum of non-negative shares.
        have later : 0 ≤ (rest.map DemandAllocation.granted).sum := by
          apply sum_map_nonneg
          intro entry entryMember
          have entrySound := sound entry (List.mem_cons_of_mem _ entryMember)
          rw [entrySound.exact]
          exact sum_map_nonneg PathShare.granted entry.shares entrySound.shares.nonneg
        rw [List.map_cons, List.sum_cons] at repeated ⊢
        refine ⟨by omega, ?_⟩
        cases rest with
        | nil => simpa using firstSound.maximum
        | cons second others => exact repeated (by simp)

theorem activeDemandsServed_iff_linkAllocation :
    linkAllocation.degraded = false ∧ verifyAllocation linkFabric linkAllocation = [] ∧
    ∃ derived, derive linkFabric = .ok derived ∧
      (ActiveDemandsServed derived linkAllocation ↔ ActiveDemandsListed derived linkAllocation) := by
  have passed : verifyAllocation linkFabric linkAllocation = [] := by decide +kernel
  have success : derive linkFabric = .ok (derivation linkFabric) :=
    (derive_eq_ok linkFabric_accepted _).mpr ⟨by decide +kernel, rfl⟩
  exact ⟨rfl, passed, _, success,
    activeDemandsServed_iff linkFabric_accepted success rfl passed⟩

/-- The same entry twice: twice the maximum. -/
def repeatedAllocation : Allocation :=
  { demands := linkAllocation.demands ++ linkAllocation.demands }

/-- The verifier accepts an allocation that leaves an active demand out, and one that
grants it its maximum twice. -/
theorem verifyAllocation_misses_demands :
    ∃ derived, derive linkFabric = .ok derived ∧
      (verifyAllocation linkFabric {} = [] ∧ ¬ ActiveDemandsServed derived {}) ∧
      (verifyAllocation linkFabric repeatedAllocation = [] ∧
        ¬ ActiveDemandsServed derived repeatedAllocation) := by
  have success : derive linkFabric = .ok (derivation linkFabric) :=
    (derive_eq_ok linkFabric_accepted _).mpr ⟨by decide +kernel, rfl⟩
  have listed : derivedDemand linkFabric linkDemand ∈ (derivation linkFabric).demands :=
    List.mem_map.mpr ⟨linkDemand, List.mem_singleton.mpr rfl, rfl⟩
  have active : (derivedDemand linkFabric linkDemand).active = true := by decide +kernel
  refine ⟨_, success, ⟨by decide +kernel, ?_⟩, ⟨by decide +kernel, ?_⟩⟩
  · intro served
    have floor := (served _ listed active).1
    exact absurd floor (by decide +kernel)
  · intro served
    have maximum := (served _ listed active).2
    exact absurd maximum (by decide +kernel)

end TrafficFabric
