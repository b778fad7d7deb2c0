import TrafficFabric.SolverSafety

set_option autoImplicit false

/- The solver against its own verifier. Construction and verification keep two accounts of
the same allocation; they agree on everything but the floors, and the floors are checked
exactly when the allocation is not marked degraded. -/
namespace TrafficFabric

/-! Paths that are stale against the path authority. -/

/-- Some path is stale. -/
def HasStalePath (snapshot : FabricSnapshot) : Prop :=
  ∃ path ∈ snapshot.paths, path.authority.generation ≠ snapshot.pathAuthorityGeneration

/-- A path that is eligible for a demand that policy admits is stale, which is what the verifier may object
to in a plan. Demands that are not in effect have no eligible path. -/
def HasStaleEligible (snapshot : FabricSnapshot) : Prop :=
  ∃ demand ∈ snapshot.demands, ¬ PolicyExcludes snapshot.policy demand ∧
    ∃ path ∈ snapshot.paths, path.id ∈ (derivedDemand snapshot demand).eligiblePaths ∧
      path.authority.generation ≠ snapshot.pathAuthorityGeneration

theorem HasStaleEligible.stale {snapshot : FabricSnapshot} (eligible : HasStaleEligible snapshot) :
    HasStalePath snapshot := by
  obtain ⟨demand, -, -, path, inside, -, differs⟩ := eligible
  exact ⟨path, inside, differs⟩

/-! The entries. -/

section Entries

variable {snapshot : FabricSnapshot} {permille : Int} (accepted : Accepted snapshot)
variable {problem : Problem} (safe : problem.Safe snapshot permille) (options : SolveOptions)

include accepted safe

theorem entryOf_reserved {demand : Demand} (member : demand ∈ snapshot.demands) :
    (entryOf options problem (derivedDemand snapshot demand)).shares.foldl
        (fun total share => satAdd total share.reserved) 0 ≤
      (entryOf options problem (derivedDemand snapshot demand)).granted := by
  obtain ⟨low, -⟩ := entryOf_granted_range accepted safe member options
  obtain ⟨shares, total⟩ := entryOf_covered accepted safe member options
  rw [foldl_satAdd PathShare.reserved _ 0 (fun share listed => (shares share listed).1) (by decide), total]
  simp only [entryOf, derivedDemand_demand] at low ⊢
  omega

/-- A demand that policy excludes has no share. -/
theorem entryOf_share_permitted {demand : Demand} (member : demand ∈ snapshot.demands) {share : PathShare}
    (listed : share ∈ (entryOf options problem (derivedDemand snapshot demand)).shares) :
    ¬ PolicyExcludes snapshot.policy demand := by
  intro excluded
  have none := withheld_granted accepted safe member (Or.inr excluded)
  have positive := (entryOf_share accepted safe member options listed).1
  have granted : (entryOf options problem (derivedDemand snapshot demand)).granted = 0 := by
    simpa [entryOf] using none
  have within : share.granted ≤ (entryOf options problem (derivedDemand snapshot demand)).granted := by
    rw [entryOf_granted accepted safe member options]
    refine List.single_le_sum ?_ _ (List.mem_map_of_mem listed)
    intro amount inside
    obtain ⟨other, held, rfl⟩ := List.mem_map.mp inside
    exact (entryOf_share accepted safe member options held).1.le
  omega

/-- An entry of the solver passes every check of the verifier but the floor. -/
theorem entryOf_sound (current : ¬ HasStaleEligible snapshot) {demand : Demand}
    (member : demand ∈ snapshot.demands) (degraded : Bool) :
    EntrySound snapshot degraded (derivedDemand snapshot demand)
        (entryOf options problem (derivedDemand snapshot demand)) ↔
      (demand.effective.covers snapshot.evaluationTick = true → degraded = false →
        (derivedDemand snapshot demand).floor ≤ (problem.demandOf demand.id).granted) := by
  have granted : (entryOf options problem (derivedDemand snapshot demand)).granted =
      (problem.demandOf demand.id).granted := by
    simp [entryOf]
  constructor
  · intro sound active plain
    rw [← granted]
    exact sound.floor (by rw [derivedDemand_active, active]) plain
  · intro floor
    obtain ⟨low, high⟩ := entryOf_granted_range accepted safe member options
    have shares : SharesSound snapshot (derivedDemand snapshot demand) []
        (entryOf options problem (derivedDemand snapshot demand)).shares := by
      refine ⟨?_, ?_, entryOf_paths_nodup accepted safe member options, by simp⟩
      · intro share listed
        exact le_of_lt (entryOf_share accepted safe member options listed).1
      · intro share listed _
        obtain ⟨-, eligible, found, generation⟩ := entryOf_share accepted safe member options listed
        refine ⟨eligible, _, found, generation, ?_⟩
        obtain ⟨inside, named⟩ := findPath_mem found
        obtain ⟨path, known, same⟩ := List.mem_map.mp inside
        by_contra differs
        rw [← same] at named differs
        refine current
          ⟨demand, member, entryOf_share_permitted accepted safe options member listed, path, known, ?_,
          differs⟩
        rw [show path.id = share.path from named]
        exact eligible
    refine ⟨rfl, shares, entryOf_granted accepted safe member options,
      entryOf_reserved accepted safe options member, ?_, ?_⟩
    · rw [derivedDemand_maximum]
      exact high
    · intro active plain
      rw [derivedDemand_active] at active
      rw [granted]
      exact floor active plain

/-- The solver's own test of the floors, read off the grants. -/
theorem floorsMet_iff : floorsMet problem = true ↔ ∀ demand ∈ snapshot.demands,
    demand.effective.covers snapshot.evaluationTick = true →
      (derivedDemand snapshot demand).floor ≤ (problem.demandOf demand.id).granted := by
  constructor
  · intro met demand member active
    exact granted_of_floorsMet accepted safe met member active
  · intro placed
    unfold floorsMet
    rw [List.all_eq_true, safe.consistent.built.derivation]
    intro entry listed
    obtain ⟨demand, member, rfl⟩ := List.mem_map.mp listed
    by_cases active : demand.effective.covers snapshot.evaluationTick = true
    · have floor := placed demand member active
      simp only [derivedDemand_active, active, Bool.not_true, Bool.false_or, derivedDemand_demand]
      split
      · simpa using floor
      · -- A skipped demand holds nothing, so its floor is met only when it is not positive.
        rename_i skipped
        obtain ⟨state, -, current, -, exclusion⟩ := safe.demand_state accepted member
        have excluded : PolicyExcludes snapshot.policy demand := by
          by_contra permitted
          have admitted := (admitted_iff accepted active).mpr permitted
          rw [current, exclusion] at skipped
          exact skipped (by simpa [Admitted] using admitted)
        rw [withheld_granted accepted safe member (.inr excluded)] at floor
        simpa using floor
    · simp [active]

theorem buildAllocation_verified_iff (fits : overflowingResource snapshot = none)
    (nonneg : 0 ≤ permille) (bounded : permille ≤ snapshot.policy.maxUtilizationPermille)
    (current : ¬ HasStaleEligible snapshot) (degraded : Bool) :
    verifyAllocation snapshot { buildAllocation options problem with degraded := degraded } = [] ↔
      (degraded = false → floorsMet problem = true) := by
  rw [verifyAllocation_eq_nil accepted, floorsMet_iff accepted safe]
  constructor
  · intro verified plain demand member active
    obtain ⟨other, inside, named, sound⟩ := verified.entries _
      ((mem_buildAllocation safe options).mpr ⟨demand, member, rfl⟩)
    have same : other = demand := by
      apply List.inj_on_of_nodup_map accepted.demand_checks.2 inside member
      simpa [entryOf] using named
    subst same
    exact (entryOf_sound accepted safe options current member _).mp sound active plain
  · intro floors
    refine ⟨fits, ?_, ?_⟩
    · intro entry listed
      obtain ⟨demand, member, rfl⟩ := (mem_buildAllocation safe options).mp listed
      refine ⟨demand, member, by simp [entryOf], ?_⟩
      apply (entryOf_sound accepted safe options current member _).mpr
      intro active plain
      exact floors plain demand member active
    · intro resource member
      rw [buildAllocation_load accepted safe options]
      have within := load_le_cap accepted safe fits nonneg bounded member
      omega

end Entries

/-! Over-claimed resources. -/

/-- Committed load and the non-displaceable reservations charged to it exceed what some
resource can carry, in exact arithmetic. -/
def Overclaimed (snapshot : FabricSnapshot) : Prop :=
  ∃ resource ∈ snapshot.capacity.resources,
    resource.usableCapacity < resource.committedLoad + reservedTotal snapshot resource.id

section Claims

variable {snapshot : FabricSnapshot} (accepted : Accepted snapshot)

include accepted

/-- The clamped account of a resource exceeds a bound of the model exactly when the exact
account does. -/
theorem chargedResidual_claim {resource : FabricResource}
    (member : resource ∈ snapshot.capacity.resources) :
    (chargedResidual snapshot resource).usableCapacity <
        (chargedResidual snapshot resource).committedLoad + (chargedResidual snapshot resource).reserved ↔
      resource.usableCapacity < resource.committedLoad + reservedTotal snapshot resource.id := by
  have range := accepted.resource_range member
  have limit : Limits.maxBandwidth < int64Max := by decide
  change resource.usableCapacity <
    resource.committedLoad + min int64Max (reservedTotal snapshot resource.id) ↔ _
  omega

theorem reservationConflict_iff :
    reservationConflict (derivation snapshot) = true ↔ Overclaimed snapshot := by
  unfold reservationConflict derivation Overclaimed
  simp only [List.any_eq_true, mem_stableSort, List.mem_flatMap]
  constructor
  · rintro ⟨constraint, ⟨entry, charged, listed⟩, -⟩
    obtain ⟨resource, member, rfl⟩ := List.mem_map.mp charged
    refine ⟨resource, member, (chargedResidual_claim accepted member).mp ?_⟩
    unfold commitmentOf at listed
    split at listed
    · assumption
    · cases listed
  · rintro ⟨resource, member, exceeded⟩
    refine ⟨overCommitted (chargedResidual snapshot resource)
      ((chargedResidual snapshot resource).committedLoad + (chargedResidual snapshot resource).reserved),
      ⟨_, List.mem_map_of_mem member, ?_⟩, ?_⟩
    · unfold commitmentOf
      rw [if_pos ((chargedResidual_claim accepted member).mpr exceeded)]
      exact List.mem_singleton_self _
    · rfl

theorem fits_of_not_overclaimed (within : ¬ Overclaimed snapshot) :
    overflowingResource snapshot = none := by
  unfold overflowingResource
  rw [List.find?_eq_none]
  intro entry listed overflows
  obtain ⟨resource, member, rfl⟩ := List.mem_map.mp listed
  have range := accepted.resource_range member
  have limit : Limits.maxBandwidth < int64Max := by decide
  apply within
  refine ⟨resource, member, (chargedResidual_claim accepted member).mp ?_⟩
  have exceeds : int64Max < (chargedResidual snapshot resource).committedLoad +
      (chargedResidual snapshot resource).reserved := by
    simpa [accountingOverflows] using overflows
  change resource.usableCapacity < _
  omega

end Claims

/-! The solver. -/

/-- Whatever the solver returns passes the verifier, and an over-claimed snapshot is
answered with a reservation conflict. -/
structure SelfVerified (snapshot : FabricSnapshot) (options : SolveOptions) : Prop where
  verified : ∀ outcome, solve snapshot options = .ok outcome →
    verifyAllocation snapshot outcome.allocation = [] ∧ outcome.status ≠ .conflictingInput
  conflict : Overclaimed snapshot → ∃ outcome, solve snapshot options = .ok outcome ∧
    outcome.status = .infeasibleReservationConflict

/-- The derivation succeeds, the objective is one the solver supports, and the problem
that reaches the status decision under the policy's cap has every floor placed. -/
def FloorsPlaced (snapshot : FabricSnapshot) (options : SolveOptions) : Prop :=
  ∃ derived, derive snapshot = .ok derived ∧
    (∀ term ∈ snapshot.objective.terms, 0 ≤ term.weight) ∧
    floorsMet (constructed snapshot derived options snapshot.policy.maxUtilizationPermille) = true

theorem verdictOf_plain (policy : Policy) (options : SolveOptions) (problem : Problem) :
    (verdictOf policy options problem false).status ≠ .conflictingInput ∧
      ((verdictOf policy options problem false).degraded = false → floorsMet problem = true) := by
  unfold verdictOf certifiedVerdict
  dsimp only
  split
  · rename_i conflict
    cases conflict
  · split
    · rename_i met
      exact ⟨by simp, fun _ => met⟩
    · split
      · simp
      · split
        · split
          · simp
          · split <;> simp
        · split <;> simp

/-- An outcome without entries passes the verifier. -/
theorem verifyAllocation_default {snapshot : FabricSnapshot} (accepted : Accepted snapshot)
    (fits : overflowingResource snapshot = none) : verifyAllocation snapshot default = [] := by
  rw [verifyAllocation_eq_nil accepted]
  refine ⟨fits, ?_, ?_⟩
  · intro entry listed
    cases listed
  · intro resource member
    obtain ⟨-, -, available, -⟩ := publishedResidual_facts accepted member
    change (0 : Int) ≤ _
    omega

theorem plan_status (snapshot : FabricSnapshot) (options : SolveOptions) (ceiling : Int)
    (conflict : Bool)
    (passed : verifyAllocation snapshot
      (plan snapshot (derivation snapshot) options ceiling conflict).allocation = []) :
    (plan snapshot (derivation snapshot) options ceiling conflict).status =
      (verdictOf snapshot.policy options (constructed snapshot (derivation snapshot) options ceiling)
        conflict).status := by
  unfold plan conclude at passed ⊢
  dsimp only at passed ⊢
  rw [passed]
  rfl

/-- A plan that the verifier objects to is not offered. -/
theorem plan_conflicting (snapshot : FabricSnapshot) (options : SolveOptions)
    (ceiling : Int) (conflict : Bool)
    (failed : verifyAllocation snapshot
      (plan snapshot (derivation snapshot) options ceiling conflict).allocation ≠ []) :
    (plan snapshot (derivation snapshot) options ceiling conflict).status = .conflictingInput := by
  unfold plan conclude at failed ⊢
  dsimp only at failed ⊢
  rw [if_neg (by simpa using failed)]

section Solver

variable {snapshot : FabricSnapshot} (accepted : Accepted snapshot) (options : SolveOptions)
variable (current : ¬ HasStaleEligible snapshot) (fits : overflowingResource snapshot = none)

include accepted current fits

theorem plan_verified_iff {ceiling : Int} (nonneg : 0 ≤ ceiling)
    (bounded : ceiling ≤ snapshot.policy.maxUtilizationPermille) (conflict : Bool) :
    verifyAllocation snapshot
        (plan snapshot (derivation snapshot) options ceiling conflict).allocation = [] ↔
      ((verdictOf snapshot.policy options (constructed snapshot (derivation snapshot) options ceiling)
          conflict).degraded = false →
        floorsMet (constructed snapshot (derivation snapshot) options ceiling) = true) := by
  obtain ⟨permille, low, high, safe⟩ := constructed_safe accepted options nonneg bounded
  exact buildAllocation_verified_iff accepted safe options fits low high current _

omit current in
/-- Without a reservation conflict a plan reports its verdict, unless a path that may be used is stale. -/
theorem plan_reports {ceiling : Int} (nonneg : 0 ≤ ceiling)
    (bounded : ceiling ≤ snapshot.policy.maxUtilizationPermille) :
    (plan snapshot (derivation snapshot) options ceiling false).status =
        (verdictOf snapshot.policy options (constructed snapshot (derivation snapshot) options ceiling)
          false).status ∨
      (plan snapshot (derivation snapshot) options ceiling false).status = .conflictingInput ∧
        HasStaleEligible snapshot := by
  by_cases passed : verifyAllocation snapshot
      (plan snapshot (derivation snapshot) options ceiling false).allocation = []
  · exact Or.inl (plan_status snapshot options ceiling false passed)
  · right
    refine ⟨plan_conflicting snapshot options ceiling false passed, ?_⟩
    by_contra current
    apply passed
    rw [plan_verified_iff accepted options current fits nonneg bounded false]
    exact (verdictOf_plain snapshot.policy options _).2

theorem solveDerived_plain (within : ¬ Overclaimed snapshot) :
    verifyAllocation snapshot
        (solveDerived snapshot (derivation snapshot) options).allocation = [] ∧
      (solveDerived snapshot (derivation snapshot) options).status ≠ .conflictingInput := by
  have cap := accepted.policy_cap
  have quiet : reservationConflict (derivation snapshot) = false := by
    simpa using mt (reservationConflict_iff accepted).mp within
  have empty := verifyAllocation_default accepted fits
  by_cases constructs : Constructs snapshot (derivation snapshot)
  · obtain ⟨nonneg, bounded⟩ := startingCeiling_range accepted (derivation snapshot)
    rw [solveDerived_constructs constructs, quiet]
    obtain ⟨status, floors⟩ := verdictOf_plain snapshot.policy options
      (constructed snapshot (derivation snapshot) options (startingCeiling snapshot (derivation snapshot)))
    have passed := (plan_verified_iff accepted options current fits nonneg bounded false).mpr floors
    refine ⟨passed, ?_⟩
    rw [plan_status snapshot options _ false passed]
    exact status
  · obtain ⟨allocation, refused⟩ := solveDerived_refuses accepted constructs options
    rw [allocation]
    refine ⟨empty, ?_⟩
    rcases refused with status | status | status <;> simp [status]

/-- On an over-claimed snapshot the allocation is never marked degraded, so the verifier
insists on every floor. -/
theorem solveDerived_overclaimed (exceeded : Overclaimed snapshot)
    (weights : ∀ term ∈ snapshot.objective.terms, 0 ≤ term.weight) :
    (verifyAllocation snapshot
        (solveDerived snapshot (derivation snapshot) options).allocation = [] ↔
      floorsMet (constructed snapshot (derivation snapshot) options
        snapshot.policy.maxUtilizationPermille) = true) ∧
    (verifyAllocation snapshot
        (solveDerived snapshot (derivation snapshot) options).allocation = [] →
      (solveDerived snapshot (derivation snapshot) options).status =
        .infeasibleReservationConflict) := by
  have cap := accepted.policy_cap
  have conflict := (reservationConflict_iff accepted).mpr exceeded
  have start : startingCeiling snapshot (derivation snapshot) = snapshot.policy.maxUtilizationPermille := by
    simp [startingCeiling, searchesCeiling, conflict]
  have value : solveDerived snapshot (derivation snapshot) options =
      plan snapshot (derivation snapshot) options snapshot.policy.maxUtilizationPermille true := by
    rw [solveDerived_constructs ⟨weights, by omega⟩, start, conflict]
  rw [value]
  refine ⟨?_, ?_⟩
  · rw [plan_verified_iff accepted options current fits (by omega) (le_refl _) true]
    exact ⟨fun floors => floors rfl, fun floors _ => floors⟩
  · intro passed
    rw [plan_status snapshot options _ true passed]
    rfl

end Solver

/-- The solver satisfies its own verifier exactly when no resource is over-claimed or,
on an over-claimed snapshot, the floors were all placed nevertheless. -/
theorem solve_selfVerified_iff {snapshot : FabricSnapshot} {options : SolveOptions}
    (accepted : Accepted snapshot) (budget : 0 < options.maxIterations)
    (authority : ∀ path ∈ snapshot.paths,
      path.authority.generation = snapshot.pathAuthorityGeneration) :
    SelfVerified snapshot options ↔ ¬ Overclaimed snapshot ∨ FloorsPlaced snapshot options := by
  have current : ¬ HasStaleEligible snapshot := by
    intro eligible
    obtain ⟨path, inside, differs⟩ := eligible.stale
    exact differs (authority path inside)
  have solved : ∀ derived, derive snapshot = .ok derived →
      solve snapshot options = .ok (solveDerived snapshot derived options) := fun derived derives =>
    solve_of_derives derives budget
  constructor
  · intro selfVerified
    by_cases exceeded : Overclaimed snapshot
    · right
      obtain ⟨outcome, answered, status⟩ := selfVerified.conflict exceeded
      obtain ⟨derived, derives⟩ := derives_of_solve answered
      obtain ⟨fits, rfl⟩ := (derive_eq_ok accepted derived).mp derives
      have value : solveDerived snapshot (derivation snapshot) options = outcome :=
        Except.ok.inj ((solved _ derives).symm.trans answered)
      -- A negative weight is refused before the conflict is looked at.
      have weights : ∀ term ∈ snapshot.objective.terms, 0 ≤ term.weight := by
        intro term listed
        by_contra negative
        have found : ∃ refused, snapshot.objective.terms.find?
            (fun term => decide (term.weight < 0)) = some refused := by
          rw [← Option.isSome_iff_exists, List.find?_isSome]
          exact ⟨term, listed, by simpa using negative⟩
        obtain ⟨refused, first⟩ := found
        rw [← value] at status
        unfold solveDerived at status
        rw [first] at status
        cases status
      refine ⟨_, derives, weights, ?_⟩
      apply (solveDerived_overclaimed accepted options current fits exceeded weights).1.mp
      rw [value]
      exact (selfVerified.verified outcome answered).1
    · exact .inl exceeded
  · intro condition
    by_cases exceeded : Overclaimed snapshot
    · obtain ⟨derived, derives, weights, floors⟩ := condition.resolve_left (not_not.mpr exceeded)
      obtain ⟨fits, rfl⟩ := (derive_eq_ok accepted derived).mp derives
      obtain ⟨passes, status⟩ :=
        solveDerived_overclaimed accepted options current fits exceeded weights
      have answer := status (passes.mpr floors)
      refine ⟨?_, fun _ => ⟨_, solved _ derives, answer⟩⟩
      intro outcome answered
      rw [solved _ derives, Except.ok.injEq] at answered
      rw [← answered]
      refine ⟨passes.mpr floors, ?_⟩
      rw [answer]
      simp
    · have fits := fits_of_not_overclaimed accepted exceeded
      have derives := (derive_eq_ok accepted (derivation snapshot)).mpr ⟨fits, rfl⟩
      refine ⟨?_, fun claimed => absurd claimed exceeded⟩
      intro outcome answered
      rw [solved _ derives, Except.ok.injEq] at answered
      rw [← answered]
      exact solveDerived_plain accepted options current fits exceeded

theorem solve_selfVerified_iff_linkFabric :
    (SelfVerified linkFabric {} ↔ ¬ Overclaimed linkFabric ∨ FloorsPlaced linkFabric {}) ∧
      ¬ Overclaimed linkFabric := by
  refine ⟨solve_selfVerified_iff linkFabric_accepted (by decide) (by decide +kernel), ?_⟩
  rintro ⟨resource, member, exceeded⟩
  revert exceeded
  revert resource
  decide +kernel

/-- The link with a committed load one above its usable capacity. -/
def overcommittedFabric : FabricSnapshot :=
  { linkFabric with
    capacity := { linkFabric.capacity with resources := [{ linkResource with committedLoad := 101 }] } }

/-- The conflict is not reported: the demand's floor cannot be placed, the allocation is
not marked degraded, and the verifier's verdict replaces the conflict. -/
theorem overcommittedFabric_not_selfVerified :
    Accepted overcommittedFabric ∧ (∀ path ∈ overcommittedFabric.paths,
        path.authority.generation = overcommittedFabric.pathAuthorityGeneration) ∧
      Overclaimed overcommittedFabric ∧
      (solve overcommittedFabric {}).toOption.map SolveOutcome.status = some .conflictingInput ∧
      ¬ SelfVerified overcommittedFabric {} := by
  have status : (solve overcommittedFabric {}).toOption.map SolveOutcome.status =
      some .conflictingInput := by
    decide +kernel
  refine ⟨accepted_of_checks _ (by decide +kernel) (by decide +kernel), by decide +kernel,
    ⟨{ linkResource with committedLoad := 101 }, by decide +kernel, by decide +kernel⟩, status, ?_⟩
  intro selfVerified
  cases answered : solve overcommittedFabric {} with
  | error reason =>
      rw [answered] at status
      cases status
  | ok outcome =>
      rw [answered] at status
      exact (selfVerified.verified outcome answered).2 (Option.some.inj status)

end TrafficFabric
