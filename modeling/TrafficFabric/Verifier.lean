import TrafficFabric.Allocation
import TrafficFabric.DerivedDemand

set_option autoImplicit false

/- The verifier accepts an allocation exactly when its entries and its exact resource
loads satisfy the conditions below. Saturation hides nothing: every bound it compares
with lies below the saturation point. -/
namespace TrafficFabric

/-- The bandwidth the share puts on the resource. -/
def shareLoad (snapshot : FabricSnapshot) (resource : ResourceId) (share : PathShare) : Int :=
  if (findPath snapshot share.path).any (fun path => path.resources.contains resource) then
    share.granted
  else 0

def entryLoad (snapshot : FabricSnapshot) (resource : ResourceId) (entry : DemandAllocation) : Int :=
  (entry.shares.map (shareLoad snapshot resource)).sum

/-- The exact sum over all shares of all entries whose path contains the resource. -/
def allocationLoad (snapshot : FabricSnapshot) (allocation : Allocation) (resource : ResourceId) :
    Int :=
  (allocation.demands.map (entryLoad snapshot resource)).sum

/-- A share with bandwidth on it is on an eligible path, at its current generation, that
the current path authority generation authorized. -/
structure SharePlaced (snapshot : FabricSnapshot) (demand : DemandDerivation) (share : PathShare) :
    Prop where
  eligible : share.path ∈ demand.eligiblePaths
  current : ∃ path, findPath snapshot share.path = some path ∧
    share.generation = path.generation ∧
    path.authority.generation = snapshot.pathAuthorityGeneration

structure SharesSound (snapshot : FabricSnapshot) (demand : DemandDerivation)
    (used : List PathId) (shares : List PathShare) : Prop where
  nonneg : ∀ share ∈ shares, 0 ≤ share.granted
  placed : ∀ share ∈ shares, share.granted ≠ 0 → SharePlaced snapshot demand share
  distinct : (shares.map PathShare.path).Nodup
  fresh : ∀ share ∈ shares, share.path ∉ used

/-- The map holds the clamped value of an exact load. -/
def LoadsAre (loads : OrdMap ResourceId Int) (exact : ResourceId → Int) : Prop :=
  ∀ resource, (loads.find? resource).getD 0 = min int64Max (exact resource)

theorem findPath_mem {snapshot : FabricSnapshot} {id : PathId} {path : PathFacts}
    (found : findPath snapshot id = some path) : path ∈ planningPaths snapshot ∧ path.id = id := by
  refine ⟨List.mem_of_find?_eq_some found, ?_⟩
  simpa using List.find?_some found

theorem findPath_eq_some {snapshot : FabricSnapshot} (accepted : Accepted snapshot)
    {path : PathFacts} (member : path ∈ planningPaths snapshot) :
    findPath snapshot path.id = some path := by
  cases found : findPath snapshot path.id with
  | none =>
      have absent := List.find?_eq_none.mp found path member
      simp at absent
  | some other =>
      obtain ⟨inside, same⟩ := findPath_mem found
      rw [List.inj_on_of_nodup_map (planningPaths_nodup accepted) inside member same]

theorem planningPath_resources {snapshot : FabricSnapshot} (accepted : Accepted snapshot)
    {path : PathFacts} (member : path ∈ planningPaths snapshot) :
    path.resources.Pairwise (· < ·) ∧ path.resources ≠ [] ∧
    path.resources.length ≤ Limits.maxResourcesPerPath ∧
    ∀ resource ∈ path.resources,
      resource ∈ snapshot.capacity.resources.map FabricResource.id := by
  obtain ⟨candidate, inside, rfl⟩ := List.mem_map.mp member
  obtain ⟨present, bounded, known⟩ := accepted.path_resources inside
  exact ⟨accepted.path_resources_strict inside, present, bounded, known⟩

theorem addLoads_spec (granted : Int) (nonneg : 0 ≤ granted) (resources : List ResourceId)
    (loads : OrdMap ResourceId Int) (exact : ResourceId → Int) (distinct : resources.Nodup)
    (before : LoadsAre loads exact) :
    LoadsAre (addLoads granted loads resources)
      (fun resource => exact resource + if resource ∈ resources then granted else 0) := by
  induction resources generalizing loads exact with
  | nil =>
      intro resource
      simpa [addLoads] using before resource
  | cons first rest ih =>
      obtain ⟨fresh, tail⟩ := List.nodup_cons.mp distinct
      have stored := before first
      have bounded : (loads.find? first).getD 0 ≤ int64Max := by
        rw [stored]
        exact min_le_left _ _
      have step : LoadsAre (loads.insert first (satAdd ((loads.find? first).getD 0) granted))
          (fun resource => exact resource + if resource = first then granted else 0) := by
        intro resource
        rw [OrdMap.find?_insert]
        by_cases same : resource = first
        · subst same
          rw [satAdd_of_nonneg nonneg bounded, stored]
          simp only [↓reduceIte, Option.getD_some]
          omega
        · simpa [same] using before resource
      have run := ih _ _ tail step
      intro resource
      rw [addLoads, List.foldl_cons]
      refine (run resource).trans ?_
      by_cases same : resource = first
      · subst same
        simp [fresh]
      · simp [same]

theorem shareLoad_nonneg {snapshot : FabricSnapshot} (resource : ResourceId) {share : PathShare}
    (nonneg : 0 ≤ share.granted) : 0 ≤ shareLoad snapshot resource share := by
  unfold shareLoad
  split <;> omega

section Shares

variable {snapshot : FabricSnapshot} (demand : DemandDerivation) (entry : DemandAllocation)

/-- One share raises no violation exactly when it is sound beside the shares before it. -/
theorem scanShare_violations (scan : ShareScan) (share : PathShare) :
    (scanShare snapshot demand entry scan share).violations = [] ↔
      scan.violations = [] ∧ 0 ≤ share.granted ∧ share.path ∉ scan.used ∧
        (share.granted ≠ 0 → SharePlaced snapshot demand share) := by
  have placed_iff : SharePlaced snapshot demand share ↔
      share.path ∈ demand.eligiblePaths ∧ ∃ path, findPath snapshot share.path = some path ∧
        share.generation = path.generation ∧
        path.authority.generation = snapshot.pathAuthorityGeneration :=
    ⟨fun placed => ⟨placed.eligible, placed.current⟩, fun both => ⟨both.1, both.2⟩⟩
  rw [placed_iff]
  unfold scanShare ShareScan.report
  by_cases zero : share.granted = 0
  · simp [zero]
  · by_cases eligible : share.path ∈ demand.eligiblePaths
    · cases found : findPath snapshot share.path with
      | none => simp [zero, eligible]
      | some path =>
          by_cases generation : share.generation = path.generation
          · simp [zero, eligible, generation]
          · simp [zero, eligible, generation]
    · simp [zero, eligible]

theorem scanShare_totals (scan : ShareScan) (share : PathShare) :
    (scanShare snapshot demand entry scan share).used = share.path :: scan.used ∧
    (scanShare snapshot demand entry scan share).shareTotal =
      satAdd scan.shareTotal share.granted ∧
    (scanShare snapshot demand entry scan share).shareReserved =
      satAdd scan.shareReserved share.reserved := by
  unfold scanShare ShareScan.report
  dsimp only
  split
  · exact ⟨rfl, rfl, rfl⟩
  · split
    · exact ⟨rfl, rfl, rfl⟩
    · split
      · exact ⟨rfl, rfl, rfl⟩
      · split <;> exact ⟨rfl, rfl, rfl⟩

/-- A sound share adds its load to every resource of its path and to no other. -/
theorem scanShare_loads (accepted : Accepted snapshot) (scan : ShareScan) (share : PathShare)
    (exact : ResourceId → Int) (before : LoadsAre scan.loads exact) (nonneg : 0 ≤ share.granted)
    (placed : share.granted ≠ 0 → SharePlaced snapshot demand share) :
    LoadsAre (scanShare snapshot demand entry scan share).loads
      (fun resource => exact resource + shareLoad snapshot resource share) := by
  by_cases zero : share.granted = 0
  · have unchanged : (scanShare snapshot demand entry scan share).loads = scan.loads := by
      simp [scanShare, ShareScan.report, zero]
    intro resource
    rw [unchanged, before resource]
    simp [shareLoad, zero]
  · obtain ⟨eligible, path, found, generation, -⟩ := placed zero
    have loads : (scanShare snapshot demand entry scan share).loads =
        addLoads share.granted scan.loads path.resources := by
      simp [scanShare, ShareScan.report, zero, eligible, found, generation]
    have distinct : path.resources.Nodup :=
      (planningPath_resources accepted (findPath_mem found).1).1.imp ne_of_lt
    intro resource
    rw [loads, addLoads_spec share.granted nonneg path.resources scan.loads exact distinct before]
    simp [shareLoad, found]

theorem scanShares_violations (shares : List PathShare) (scan : ShareScan) :
    (shares.foldl (scanShare snapshot demand entry) scan).violations = [] ↔
      scan.violations = [] ∧ SharesSound snapshot demand scan.used shares := by
  induction shares generalizing scan with
  | nil =>
      simp only [List.foldl_nil]
      exact ⟨fun empty => ⟨empty, ⟨by simp, by simp, by simp, by simp⟩⟩, fun both => both.1⟩
  | cons share rest ih =>
      rw [List.foldl_cons, ih, scanShare_violations, (scanShare_totals demand entry scan share).1]
      constructor
      · rintro ⟨⟨empty, nonneg, fresh, placed⟩, sound⟩
        refine ⟨empty, ⟨?_, ?_, ?_, ?_⟩⟩
        · exact List.forall_mem_cons.mpr ⟨nonneg, sound.nonneg⟩
        · exact List.forall_mem_cons.mpr ⟨placed, sound.placed⟩
        · refine List.nodup_cons.mpr ⟨?_, sound.distinct⟩
          intro repeated
          obtain ⟨other, member, same⟩ := List.mem_map.mp repeated
          exact sound.fresh other member (same ▸ List.mem_cons_self)
        · refine List.forall_mem_cons.mpr ⟨fresh, ?_⟩
          intro other member used
          exact sound.fresh other member (List.mem_cons_of_mem _ used)
      · rintro ⟨empty, sound⟩
        obtain ⟨nonneg, laterNonneg⟩ := List.forall_mem_cons.mp sound.nonneg
        obtain ⟨placed, laterPlaced⟩ := List.forall_mem_cons.mp sound.placed
        obtain ⟨single, distinct⟩ := List.nodup_cons.mp sound.distinct
        obtain ⟨fresh, laterFresh⟩ := List.forall_mem_cons.mp sound.fresh
        refine ⟨⟨empty, nonneg, fresh, placed⟩, ⟨laterNonneg, laterPlaced, distinct, ?_⟩⟩
        intro other member used
        rcases List.mem_cons.mp used with same | old
        · exact single (same ▸ List.mem_map.mpr ⟨other, member, rfl⟩)
        · exact laterFresh other member old

theorem scanShares_totals (shares : List PathShare) (scan : ShareScan) :
    (shares.foldl (scanShare snapshot demand entry) scan).shareTotal =
      shares.foldl (fun total share => satAdd total share.granted) scan.shareTotal ∧
    (shares.foldl (scanShare snapshot demand entry) scan).shareReserved =
      shares.foldl (fun total share => satAdd total share.reserved) scan.shareReserved := by
  induction shares generalizing scan with
  | nil => exact ⟨rfl, rfl⟩
  | cons share rest ih =>
      obtain ⟨-, total, reserved⟩ := @scanShare_totals snapshot demand entry scan share
      simp only [List.foldl_cons, ih, total, reserved, and_self]

theorem scanShares_loads (accepted : Accepted snapshot) (shares : List PathShare)
    (scan : ShareScan) (exact : ResourceId → Int) (before : LoadsAre scan.loads exact)
    (nonneg : ∀ share ∈ shares, 0 ≤ share.granted)
    (placed : ∀ share ∈ shares, share.granted ≠ 0 → SharePlaced snapshot demand share) :
    LoadsAre (shares.foldl (scanShare snapshot demand entry) scan).loads
      (fun resource => exact resource + (shares.map (shareLoad snapshot resource)).sum) := by
  induction shares generalizing scan exact with
  | nil => simpa using before
  | cons share rest ih =>
      obtain ⟨first, later⟩ := List.forall_mem_cons.mp nonneg
      obtain ⟨firstPlaced, laterPlaced⟩ := List.forall_mem_cons.mp placed
      have step := scanShare_loads demand entry accepted scan share exact before first firstPlaced
      have run := ih _ _ step later laterPlaced
      intro resource
      rw [List.foldl_cons, run resource]
      simp only [List.map_cons, List.sum_cons, Int.add_assoc]

end Shares

/-! Entries. -/

/-- What the verifier requires of one entry. -/
structure EntrySound (snapshot : FabricSnapshot) (degraded : Bool) (demand : DemandDerivation)
    (entry : DemandAllocation) : Prop where
  generation : entry.generation = demand.generation
  shares : SharesSound snapshot demand [] entry.shares
  exact : entry.granted = (entry.shares.map PathShare.granted).sum
  reserved : entry.shares.foldl (fun total share => satAdd total share.reserved) 0 ≤ entry.granted
  maximum : entry.granted ≤ demand.maximum
  floor : demand.active = true → degraded = false → demand.floor ≤ entry.granted

theorem entryViolations_eq_nil (degraded : Bool) (demand : DemandDerivation)
    (entry : DemandAllocation) (scan : ShareScan) :
    entryViolations degraded demand entry scan = [] ↔
      scan.shareTotal = entry.granted ∧ scan.shareReserved ≤ entry.granted ∧ 0 ≤ entry.granted ∧
        entry.granted ≤ demand.maximum ∧
        (demand.active = true → degraded = false → demand.floor ≤ entry.granted) := by
  simp only [entryViolations, List.append_eq_nil_iff, ite_eq_right_iff, reduceCtorEq, imp_false,
    not_lt, not_not, Bool.and_eq_true, Bool.not_eq_true', decide_eq_true_eq, not_and, and_assoc]

section Entries

variable {snapshot : FabricSnapshot} (expected : OrdMap DemandId DemandDerivation)
  (degraded : Bool)

/-- An entry raises no violation exactly when it is sound. The exact total follows from
the saturating one because the maximum lies below the saturation point. -/
theorem verifyEntry_violations (state : EntryScan) (entry : DemandAllocation)
    (demand : DemandDerivation) (known : expected.find? entry.demand = some demand)
    (bounded : demand.maximum < int64Max) :
    (verifyEntry snapshot expected degraded state entry).violations = [] ↔
      state.violations = [] ∧ EntrySound snapshot degraded demand entry := by
  have positive : (0 : Int) ≤ int64Max := by decide
  unfold verifyEntry
  simp only [known]
  by_cases generation : entry.generation = demand.generation
  · simp only [generation, beq_self_eq_true, Bool.not_true, Bool.false_eq_true, ↓reduceIte,
      List.append_eq_nil_iff, scanShares_violations, entryViolations_eq_nil,
      (scanShares_totals demand entry entry.shares _).1,
      (scanShares_totals demand entry entry.shares _).2]
    constructor
    · rintro ⟨⟨empty, sound⟩, total, reserved, -, maximum, floor⟩
      rw [foldl_satAdd PathShare.granted entry.shares 0 sound.nonneg positive, Int.zero_add] at total
      refine ⟨empty, ⟨generation, sound, by omega, reserved, maximum, floor⟩⟩
    · rintro ⟨empty, sound⟩
      have total := sum_map_nonneg PathShare.granted entry.shares sound.shares.nonneg
      have exact := sound.exact
      have maximum := sound.maximum
      refine ⟨⟨empty, sound.shares⟩, ?_, sound.reserved, by omega, maximum, sound.floor⟩
      rw [foldl_satAdd PathShare.granted entry.shares 0 sound.shares.nonneg positive, Int.zero_add]
      omega
  · have stale : (!(entry.generation == demand.generation)) = true := by simp [generation]
    simp only [stale, ↓reduceIte, List.append_eq_nil_iff, reduceCtorEq, and_false, false_iff,
      not_and]
    intro _ sound
    exact generation sound.generation

theorem verifyEntry_violations_mono (state : EntryScan) (entry : DemandAllocation)
    (empty : (verifyEntry snapshot expected degraded state entry).violations = []) :
    state.violations = [] := by
  unfold verifyEntry at empty
  split at empty
  · exact empty
  · split at empty
    · exact (List.append_eq_nil_iff.mp empty).1
    · have scanned := (List.append_eq_nil_iff.mp empty).1
      rw [scanShares_violations] at scanned
      exact scanned.1

theorem verifyEntries_violations_mono (entries : List DemandAllocation) (state : EntryScan)
    (empty : (entries.foldl (verifyEntry snapshot expected degraded) state).violations = []) :
    state.violations = [] := by
  induction entries generalizing state with
  | nil => exact empty
  | cons entry rest ih =>
      exact verifyEntry_violations_mono expected degraded state entry (ih _ empty)

theorem verifyEntry_loads (accepted : Accepted snapshot) (state : EntryScan)
    (entry : DemandAllocation) (demand : DemandDerivation)
    (known : expected.find? entry.demand = some demand) (exact : ResourceId → Int)
    (before : LoadsAre state.loads exact) (sound : EntrySound snapshot degraded demand entry) :
    LoadsAre (verifyEntry snapshot expected degraded state entry).loads
      (fun resource => exact resource + entryLoad snapshot resource entry) := by
  have loads : (verifyEntry snapshot expected degraded state entry).loads =
      (entry.shares.foldl (scanShare snapshot demand entry)
        { violations := state.violations, loads := state.loads }).loads := by
    simp [verifyEntry, known, sound.generation]
  rw [loads]
  exact scanShares_loads demand entry accepted entry.shares _ exact before sound.shares.nonneg
    sound.shares.placed

/-- The loop over the entries, from any state it can be in. -/
theorem verifyEntries_violations
    (bounded : ∀ id demand, expected.find? id = some demand → demand.maximum < int64Max)
    (entries : List DemandAllocation) (state : EntryScan)
    (known : ∀ entry ∈ entries, (expected.find? entry.demand).isSome) :
    (entries.foldl (verifyEntry snapshot expected degraded) state).violations = [] ↔
      state.violations = [] ∧ ∀ entry ∈ entries, ∃ demand,
        expected.find? entry.demand = some demand ∧ EntrySound snapshot degraded demand entry := by
  induction entries generalizing state with
  | nil => simp
  | cons entry rest ih =>
      obtain ⟨first, later⟩ := List.forall_mem_cons.mp known
      obtain ⟨demand, found⟩ := Option.isSome_iff_exists.mp first
      rw [List.foldl_cons, ih _ later,
        verifyEntry_violations expected degraded state entry demand found
          (bounded entry.demand demand found), List.forall_mem_cons]
      simp only [found, Option.some.injEq, exists_eq_left', and_assoc]

theorem verifyEntries_loads (accepted : Accepted snapshot) (entries : List DemandAllocation)
    (state : EntryScan) (exact : ResourceId → Int) (before : LoadsAre state.loads exact)
    (sound : ∀ entry ∈ entries, ∃ demand,
      expected.find? entry.demand = some demand ∧ EntrySound snapshot degraded demand entry) :
    LoadsAre (entries.foldl (verifyEntry snapshot expected degraded) state).loads
      (fun resource => exact resource + (entries.map (entryLoad snapshot resource)).sum) := by
  induction entries generalizing state exact with
  | nil => simpa using before
  | cons entry rest ih =>
      obtain ⟨⟨demand, found, first⟩, later⟩ := List.forall_mem_cons.mp sound
      have step := verifyEntry_loads expected degraded accepted state entry demand found exact before
        first
      have run := ih _ _ step later
      intro resource
      rw [List.foldl_cons, run resource]
      simp only [List.map_cons, List.sum_cons, Int.add_assoc]

end Entries

theorem unknownDemand_eq_nil (expected : OrdMap DemandId DemandDerivation)
    (entries : List DemandAllocation) :
    entries.flatMap (unknownDemand expected) = [] ↔
      ∀ entry ∈ entries, (expected.find? entry.demand).isSome := by
  simp only [List.flatMap_eq_nil_iff]
  refine forall₂_congr ?_
  intro entry _
  cases found : expected.find? entry.demand with
  | none => simp [unknownDemand, found]
  | some demand => simp [unknownDemand, found]

theorem expectedDemands_find {snapshot : FabricSnapshot} (accepted : Accepted snapshot)
    (id : DemandId) (entry : DemandDerivation) :
    (expectedDemands (derivation snapshot)).find? id = some entry ↔
      ∃ demand ∈ snapshot.demands, demand.id = id ∧ derivedDemand snapshot demand = entry := by
  have strict : (derivation snapshot).demands.Pairwise
      (fun first second => first.demand < second.demand) := by
    refine List.pairwise_map.mpr ?_
    simpa using accepted.demands_strict
  unfold expectedDemands
  rw [OrdMap.find?_foldl_emplace DemandDerivation.demand (fun entry => entry) _ strict]
  constructor
  · rintro ⟨_, member, same, rfl⟩
    obtain ⟨demand, inside, rfl⟩ := List.mem_map.mp member
    exact ⟨demand, inside, by simpa using same, rfl⟩
  · rintro ⟨demand, inside, same, rfl⟩
    exact ⟨_, List.mem_map.mpr ⟨demand, inside, rfl⟩, by simpa using same, rfl⟩

/-- Everything the verifier establishes, in exact arithmetic. -/
structure Verified (snapshot : FabricSnapshot) (allocation : Allocation) : Prop where
  fits : overflowingResource snapshot = none
  entries : ∀ entry ∈ allocation.demands, ∃ demand ∈ snapshot.demands,
    demand.id = entry.demand ∧
      EntrySound snapshot allocation.degraded (derivedDemand snapshot demand) entry
  capacity : ∀ resource ∈ snapshot.capacity.resources,
    allocationLoad snapshot allocation resource.id ≤ (publishedResidual snapshot resource).available

theorem verifyAllocation_eq_nil {snapshot : FabricSnapshot} (accepted : Accepted snapshot)
    (allocation : Allocation) :
    verifyAllocation snapshot allocation = [] ↔ Verified snapshot allocation := by
  have limit : Limits.maxBandwidth < int64Max := by decide
  have bounded : ∀ id demand, (expectedDemands (derivation snapshot)).find? id = some demand →
      demand.maximum < int64Max := by
    intro id entry found
    obtain ⟨demand, member, -, rfl⟩ := (expectedDemands_find accepted id entry).mp found
    have range := accepted.demand_range member
    rw [derivedDemand_maximum]
    omega
  have sound_iff : (∀ entry ∈ allocation.demands, ∃ demand,
        (expectedDemands (derivation snapshot)).find? entry.demand = some demand ∧
          EntrySound snapshot allocation.degraded demand entry) ↔
      ∀ entry ∈ allocation.demands, ∃ demand ∈ snapshot.demands, demand.id = entry.demand ∧
        EntrySound snapshot allocation.degraded (derivedDemand snapshot demand) entry := by
    refine forall₂_congr ?_
    intro entry _
    constructor
    · rintro ⟨_, found, sound⟩
      obtain ⟨demand, member, same, rfl⟩ := (expectedDemands_find accepted _ _).mp found
      exact ⟨demand, member, same, sound⟩
    · rintro ⟨demand, member, same, sound⟩
      exact ⟨_, (expectedDemands_find accepted _ _).mpr ⟨demand, member, same, rfl⟩, sound⟩
  have empty : LoadsAre OrdMap.empty (fun _ => 0) := by
    intro resource
    rfl
  unfold verifyAllocation
  rw [derive_eq accepted]
  cases overflow : overflowingResource snapshot with
  | some entry =>
      simp only [reduceCtorEq, false_iff]
      intro verified
      rw [verified.fits] at overflow
      cases overflow
  | none =>
      simp only [sortConstraints_eq_nil, List.append_eq_nil_iff]
      -- The capacity check reads loads that are exact once every entry is sound.
      have capacity : (∀ entry ∈ allocation.demands, ∃ demand,
            (expectedDemands (derivation snapshot)).find? entry.demand = some demand ∧
              EntrySound snapshot allocation.degraded demand entry) →
          ∀ violations, ((derivation snapshot).residuals.flatMap (oversubscribed
            (allocation.demands.foldl (verifyEntry snapshot (expectedDemands (derivation snapshot))
              allocation.degraded) { violations := violations, loads := OrdMap.empty }).loads) = [] ↔
            ∀ resource ∈ snapshot.capacity.resources, allocationLoad snapshot allocation resource.id ≤
              (publishedResidual snapshot resource).available) := by
        intro sound violations
        have loads := verifyEntries_loads (expectedDemands (derivation snapshot))
          allocation.degraded accepted allocation.demands
          { violations := violations, loads := OrdMap.empty } (fun _ => 0) empty sound
        simp only [List.flatMap_eq_nil_iff, derivation, List.forall_mem_map]
        refine forall₂_congr ?_
        intro resource member
        have facts := publishedResidual_facts accepted member
        have range := accepted.resource_range member
        have value := loads resource.id
        simp only [Int.zero_add] at value
        simp only [oversubscribed, facts.1, derivation] at value ⊢
        rw [value]
        simp only [ite_eq_right_iff, reduceCtorEq, imp_false, not_lt]
        unfold allocationLoad
        omega
      constructor
      · rintro ⟨entries, resources⟩
        have known := (unknownDemand_eq_nil _ _).mp
          (verifyEntries_violations_mono _ _ allocation.demands _ entries)
        have sound := ((verifyEntries_violations _ _ bounded allocation.demands _ known).mp entries).2
        exact ⟨overflow, sound_iff.mp sound, (capacity sound _).mp resources⟩
      · intro verified
        have sound := sound_iff.mpr verified.entries
        have known : ∀ entry ∈ allocation.demands,
            ((expectedDemands (derivation snapshot)).find? entry.demand).isSome := by
          intro entry member
          obtain ⟨demand, found, -⟩ := sound entry member
          exact Option.isSome_iff_exists.mpr ⟨demand, found⟩
        refine ⟨?_, (capacity sound _).mpr verified.capacity⟩
        exact (verifyEntries_violations _ _ bounded allocation.demands _ known).mpr
          ⟨(unknownDemand_eq_nil _ _).mpr known, sound⟩

/-- The demand of the link on its only path. -/
def linkAllocation : Allocation :=
  { demands :=
      [{ demand := named "demand-1"
         generation := Gen.first
         granted := 10
         shares := [{ path := named "path-1", generation := Gen.first, granted := 10 }] }] }

end TrafficFabric
