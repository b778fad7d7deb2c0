import TrafficFabric.SolverVerified
import TrafficFabric.CertificateSoundness
import TrafficFabric.ReservationDisposition
import TrafficFabric.VerifierSoundness

set_option autoImplicit false

/- What becomes of a floor that is not placed. The status block names every short demand it meets, and the
verifier every one it is shown; the refusal of the utilisation search and the branch for the demands that
policy removes name none. -/
namespace TrafficFabric

/-! What an entry of the binding set is about. -/

/-- The entry is about the demand, by its field or by its subject. -/
def BindingConstraint.Names (constraint : BindingConstraint) (demand : DemandId) : Prop :=
  constraint.demand = demand ∨ constraint.subject = demandSubject demand

/-- The entry carries no demand and its subject is of another kind. -/
def BindingConstraint.Anonymous (constraint : BindingConstraint) : Prop :=
  constraint.demand = default ∧ constraint.subject.head? ≠ some (byte 'd')

theorem BindingConstraint.Anonymous.silent {constraint : BindingConstraint}
    (anonymous : constraint.Anonymous)
    {demand : DemandId} (valid : demand.valid = true) : ¬ constraint.Names demand := by
  rintro (field | subject)
  · rw [← field, anonymous.1] at valid
    cases valid
  · apply anonymous.2
    rw [subject]
    rfl

theorem SortsConstraints.mem {sort : List BindingConstraint → List BindingConstraint}
    (sorts : SortsConstraints sort) (constraints : List BindingConstraint)
    (constraint : BindingConstraint) :
    constraint ∈ sortConstraintsBy sort constraints ↔ constraint ∈ constraints := by
  rw [← (sorts.perm constraints).mem_iff]
  exact mem_destutter _ constraint

theorem mem_sortConstraints (constraints : List BindingConstraint) (constraint : BindingConstraint) :
    constraint ∈ sortConstraints constraints ↔ constraint ∈ constraints :=
  stableSort_sorts.mem constraints constraint

theorem canonicalizeBindings_subset (result : FeasibilityResult) :
    ∀ constraint ∈ result.canonicalizeBindings.binding, constraint ∈ result.binding := by
  intro constraint member
  rw [← mem_sortConstraints]
  unfold FeasibilityResult.canonicalizeBindings FeasibilityResult.canonicalizeBindingsBy at member
  dsimp only at member
  split at member
  · exact List.mem_of_mem_take member
  · exact member

/-- Unless the set is cut, every entry survives. -/
theorem mem_canonicalizeBindings {result : FeasibilityResult}
    (whole : result.canonicalizeBindings.bindingTruncated = false) (constraint : BindingConstraint)
    (member : constraint ∈ result.binding) : constraint ∈ result.canonicalizeBindings.binding := by
  unfold FeasibilityResult.canonicalizeBindings FeasibilityResult.canonicalizeBindingsBy at whole ⊢
  dsimp only at whole ⊢
  split at whole
  · cases whole
  · rename_i short
    rw [if_neg short]
    exact (mem_sortConstraints _ _).mpr member

theorem derivation_constraints_anonymous (snapshot : FabricSnapshot) :
    ∀ constraint ∈ (derivation snapshot).constraints, constraint.Anonymous := by
  intro constraint listed
  unfold derivation at listed
  rw [mem_stableSort, List.mem_flatMap] at listed
  obtain ⟨entry, -, overcommitted⟩ := listed
  unfold commitmentOf at overcommitted
  split at overcommitted
  · rw [List.mem_singleton] at overcommitted
    subst overcommitted
    exact ⟨rfl, by simp [overCommitted, text, byte]⟩
  · cases overcommitted

/-- The refusal of the utilisation search names no demand. -/
theorem searchRefusal_anonymous (snapshot : FabricSnapshot) (problem : Problem) :
    ∀ constraint ∈ (searchRefusal snapshot (derivation snapshot) problem).feasibility.binding,
      constraint.Anonymous := by
  intro constraint listed
  have known := derivation_constraints_anonymous snapshot
  have cut : ∀ resource : ResourceId, ∀ detail : Text, (cutConstraint resource detail).Anonymous := by
    intro resource detail
    exact ⟨rfl, by simp [cutConstraint, text, byte]⟩
  have cap : ∀ certificate : Certificate, (capConstraint snapshot.policy certificate).Anonymous := by
    intro certificate
    exact ⟨rfl, by simp [capConstraint, text, byte]⟩
  unfold searchRefusal refusal at listed
  dsimp only at listed
  split at listed
  · have told := canonicalizeBindings_subset _ constraint listed
    dsimp only at told
    rcases List.mem_append.mp told with before | cuts
    · rcases List.mem_append.mp before with derived | capped
      · exact known constraint derived
      · rw [List.mem_singleton.mp capped]
        exact cap _
    · obtain ⟨resource, -, rfl⟩ := List.mem_map.mp cuts
      exact cut resource _
  · have told := canonicalizeBindings_subset _ constraint listed
    dsimp only at told
    rcases List.mem_append.mp told with derived | cuts
    · exact known constraint derived
    · obtain ⟨resource, -, rfl⟩ := List.mem_map.mp cuts
      exact cut resource _

/-! What the verifier reports. -/

section Shares

variable {snapshot : FabricSnapshot} (demand : DemandDerivation) (entry : DemandAllocation)

/-- A share only adds violations. -/
theorem scanShare_keeps (scan : ShareScan) (share : PathShare) :
    scan.violations ⊆ (scanShare snapshot demand entry scan share).violations := by
  intro constraint member
  have kept : ∀ violations : List BindingConstraint, constraint ∈ scan.violations ++ violations :=
    fun violations => List.mem_append_left violations member
  unfold scanShare ShareScan.report
  dsimp only
  split
  · exact kept _
  · split
    · exact List.mem_append_left _ (kept _)
    · split
      · exact List.mem_append_left _ (kept _)
      · split
        · exact List.mem_append_left _ (kept _)
        · exact List.mem_append_left _ (kept _)

theorem scanShares_keep (shares : List PathShare) (scan : ShareScan) :
    scan.violations ⊆ (shares.foldl (scanShare snapshot demand entry) scan).violations := by
  induction shares generalizing scan with
  | nil => exact List.Subset.refl _
  | cons share rest ih =>
      intro constraint member
      exact ih _ (scanShare_keeps demand entry scan share member)

/-- On an eligible path at its current generation, only the authority of the path can be in the way. -/
def PathShare.Known (snapshot : FabricSnapshot) (demand : DemandDerivation) (share : PathShare) : Prop :=
  0 ≤ share.granted ∧ share.path ∈ demand.eligiblePaths ∧
    ∃ path, findPath snapshot share.path = some path ∧ share.generation = path.generation

theorem scanShare_anonymous {scan : ShareScan} {share : PathShare} (known : share.Known snapshot demand)
    (fresh : share.path ∉ scan.used)
    (before : ∀ constraint ∈ scan.violations, constraint.Anonymous) :
    ∀ constraint ∈ (scanShare snapshot demand entry scan share).violations, constraint.Anonymous := by
  obtain ⟨nonneg, eligible, path, found, generation⟩ := known
  have present : ¬ share.granted < 0 := by omega
  have unused : ¬ (scan.used.contains share.path = true) := by simpa using fresh
  have listed : (!demand.eligiblePaths.contains share.path) = false := by simpa using eligible
  have current : (!(share.generation == path.generation)) = false := by simp [generation]
  unfold scanShare ShareScan.report
  dsimp only
  rw [if_neg present, if_neg unused]
  simp only [listed, found, current, List.append_nil, Bool.false_eq_true, ↓reduceIte]
  intro constraint member
  split at member
  · exact before constraint member
  · rcases List.mem_append.mp member with old | new
    · exact before constraint old
    · split at new
      · rw [List.mem_singleton] at new
        subst new
        exact ⟨rfl, by simp [violation, text, byte]⟩
      · cases new

theorem scanShares_anonymous (shares : List PathShare) (scan : ShareScan)
    (known : ∀ share ∈ shares, share.Known snapshot demand) (distinct : (shares.map PathShare.path).Nodup)
    (fresh : ∀ share ∈ shares, share.path ∉ scan.used)
    (before : ∀ constraint ∈ scan.violations, constraint.Anonymous) :
    ∀ constraint ∈ (shares.foldl (scanShare snapshot demand entry) scan).violations,
      constraint.Anonymous := by
  induction shares generalizing scan with
  | nil => exact before
  | cons share rest ih =>
      obtain ⟨first, later⟩ := List.forall_mem_cons.mp known
      obtain ⟨unused, others⟩ := List.forall_mem_cons.mp fresh
      obtain ⟨single, nodup⟩ := List.nodup_cons.mp distinct
      apply ih _ later nodup
      · intro other member
        rw [(scanShare_totals demand entry scan share).1, List.mem_cons]
        rintro (same | old)
        · exact single (same ▸ List.mem_map_of_mem member)
        · exact others other member old
      · exact scanShare_anonymous demand entry first unused before

end Shares

section Entries

variable {snapshot : FabricSnapshot} (expected : OrdMap DemandId DemandDerivation) (degraded : Bool)

theorem verifyEntry_keeps (state : EntryScan) (entry : DemandAllocation) :
    state.violations ⊆ (verifyEntry snapshot expected degraded state entry).violations := by
  unfold verifyEntry
  split
  · exact List.Subset.refl _
  · dsimp only
    split
    · exact List.subset_append_left _ _
    · rename_i demand _ _
      intro constraint member
      exact List.mem_append_left _ (scanShares_keep demand entry entry.shares _ member)

theorem verifyEntries_keep (entries : List DemandAllocation) (state : EntryScan) :
    state.violations ⊆ (entries.foldl (verifyEntry snapshot expected degraded) state).violations := by
  induction entries generalizing state with
  | nil => exact List.Subset.refl _
  | cons entry rest ih =>
      intro constraint member
      exact ih _ (verifyEntry_keeps expected degraded state entry member)

/-- A short entry of an allocation that is not marked degraded is reported by its demand. -/
theorem verifyEntries_floor {demand : DemandDerivation} (active : demand.active = true)
    (entries : List DemandAllocation) (state : EntryScan) {entry : DemandAllocation}
    (listed : entry ∈ entries)
    (known : expected.find? entry.demand = some demand) (current : entry.generation = demand.generation)
    (short : entry.granted < demand.floor) :
    ∃ constraint ∈ (entries.foldl (verifyEntry snapshot expected false) state).violations,
      constraint.Names entry.demand := by
  induction entries generalizing state with
  | nil => cases listed
  | cons first rest ih =>
      rw [List.foldl_cons]
      rcases List.mem_cons.mp listed with same | later
      · subst same
        refine ⟨violation .demandMinimum (demandSubject entry.demand)
          (text "granted bandwidth is below the demand hard floor"), ?_, Or.inr rfl⟩
        apply verifyEntries_keep expected false rest
        unfold verifyEntry
        simp only [known, current, beq_self_eq_true, Bool.not_true, Bool.false_eq_true, ↓reduceIte]
        apply List.mem_append_right
        unfold entryViolations
        apply List.mem_append_right
        simp [active, short]
      · exact ih _ later

/-- What the verifier checks of an entry but its floor and the authority of its paths. -/
structure DemandAllocation.Closed (snapshot : FabricSnapshot) (demand : DemandDerivation)
    (entry : DemandAllocation) : Prop where
  generation : entry.generation = demand.generation
  shares : ∀ share ∈ entry.shares, share.Known snapshot demand
  distinct : (entry.shares.map PathShare.path).Nodup
  exact : entry.shares.foldl (fun total share => satAdd total share.granted) 0 = entry.granted
  reserved : entry.shares.foldl (fun total share => satAdd total share.reserved) 0 ≤ entry.granted
  nonneg : 0 ≤ entry.granted
  maximum : entry.granted ≤ demand.maximum

/-- Closed entries of a degraded allocation are reported for nothing but the authority of their paths. -/
theorem verifyEntries_anonymous (entries : List DemandAllocation) (state : EntryScan)
    (closed : ∀ entry ∈ entries, ∃ demand, expected.find? entry.demand = some demand ∧
      entry.Closed snapshot demand)
    (before : ∀ constraint ∈ state.violations, constraint.Anonymous) :
    ∀ constraint ∈ (entries.foldl (verifyEntry snapshot expected true) state).violations,
      constraint.Anonymous := by
  induction entries generalizing state with
  | nil => exact before
  | cons entry rest ih =>
      obtain ⟨⟨demand, found, own⟩, later⟩ := List.forall_mem_cons.mp closed
      apply ih _ later
      let start : ShareScan := { violations := state.violations, loads := state.loads }
      have scanned := scanShares_anonymous demand entry entry.shares start own.shares own.distinct
        (fun _ _ => List.not_mem_nil) before
      obtain ⟨total, reserved⟩ := @scanShares_totals snapshot demand entry entry.shares start
      have nothing : entryViolations true demand entry
          (entry.shares.foldl (scanShare snapshot demand entry) start) = [] := by
        rw [entryViolations_eq_nil, total, reserved]
        exact ⟨own.exact, own.reserved, own.nonneg, own.maximum, fun _ degraded => by cases degraded⟩
      unfold verifyEntry
      simp only [found, own.generation, beq_self_eq_true, Bool.not_true, Bool.false_eq_true, ↓reduceIte]
      change ∀ constraint ∈ (entry.shares.foldl (scanShare snapshot demand entry) start).violations ++
        entryViolations true demand entry (entry.shares.foldl (scanShare snapshot demand entry) start), _
      rw [nothing, List.append_nil]
      exact scanned

end Entries

/-! Allocations of the solver. -/

section Built

variable {snapshot : FabricSnapshot} {permille : Int} (accepted : Accepted snapshot)
variable {problem : Problem} (safe : problem.Safe snapshot permille) (options : SolveOptions)

include accepted safe

theorem entryOf_closed {demand : Demand} (member : demand ∈ snapshot.demands) :
    (entryOf options problem (derivedDemand snapshot demand)).Closed snapshot
      (derivedDemand snapshot demand) := by
  have range := accepted.demand_range member
  have limit : Limits.maxBandwidth < int64Max := by decide
  obtain ⟨low, high⟩ := entryOf_granted_range accepted safe member options
  have granted := entryOf_granted accepted safe member options
  have nonneg : ∀ share ∈ (entryOf options problem (derivedDemand snapshot demand)).shares,
      0 ≤ share.granted := by
    intro share listed
    exact le_of_lt (entryOf_share accepted safe member options listed).1
  refine ⟨rfl, ?_, entryOf_paths_nodup accepted safe member options, ?_,
    entryOf_reserved accepted safe options member, low, ?_⟩
  · intro share listed
    obtain ⟨-, eligible, found, generation⟩ := entryOf_share accepted safe member options listed
    exact ⟨nonneg share listed, eligible, _, found, generation⟩
  · rw [foldl_satAdd PathShare.granted _ 0 nonneg (by decide), ← granted]
    omega
  · rw [derivedDemand_maximum]
    exact high

/-- The entry of a demand is the only one. -/
theorem totalGrantedTo_built {demand : Demand} (member : demand ∈ snapshot.demands) (degraded : Bool) :
    totalGrantedTo { buildAllocation options problem with degraded := degraded } demand.id =
      (problem.demandOf demand.id).granted := by
  have ids : (buildAllocation options problem).demands.map DemandAllocation.demand =
      snapshot.demands.map Demand.id := by
    rw [buildAllocation_demands accepted safe options]
    simp [derivation, entryOf, Function.comp_def]
  have distinct : ((buildAllocation options problem).demands.map DemandAllocation.demand).Nodup := by
    rw [ids]
    exact accepted.demand_checks.2
  have listed := (mem_buildAllocation safe options).mpr ⟨demand, member, rfl⟩
  have own := sum_map_of_key DemandAllocation.demand DemandAllocation.granted _ distinct _ listed
  unfold totalGrantedTo entriesOf
  rw [sum_map_filter]
  simpa [entryOf] using own

/-- The verifier is shown every floor that an allocation not marked degraded leaves short. -/
theorem verifyAllocation_floor (fits : overflowingResource snapshot = none) {demand : Demand}
    (member : demand ∈ snapshot.demands) (active : demand.effective.covers snapshot.evaluationTick = true)
    (short : (problem.demandOf demand.id).granted < (derivedDemand snapshot demand).floor) :
    ∃ constraint ∈ verifyAllocation snapshot { buildAllocation options problem with degraded := false },
      constraint.Names demand.id := by
  have listed := (mem_buildAllocation safe options).mpr ⟨demand, member, rfl⟩
  have known := (expectedDemands_find accepted demand.id _).mpr ⟨demand, member, rfl, rfl⟩
  have named : (entryOf options problem (derivedDemand snapshot demand)).demand = demand.id := by
    simp [entryOf]
  rw [← named] at known
  obtain ⟨constraint, reported, names⟩ := @verifyEntries_floor snapshot
    (expectedDemands (derivation snapshot)) _ (by rw [derivedDemand_active, active])
      (buildAllocation options problem).demands
    { violations := (buildAllocation options problem).demands.flatMap
        (unknownDemand (expectedDemands (derivation snapshot)))
      loads := OrdMap.empty } _ listed known rfl (by simpa [entryOf] using short)
  rw [named] at names
  refine ⟨constraint, ?_, names⟩
  unfold verifyAllocation
  rw [derive_eq accepted, fits]
  exact (mem_sortConstraints _ _).mpr (List.mem_append_left _ reported)

/-- Of a degraded allocation the verifier reports no demand. -/
theorem verifyAllocation_anonymous (fits : overflowingResource snapshot = none) :
    ∀ constraint ∈ verifyAllocation snapshot { buildAllocation options problem with degraded := true },
      constraint.Anonymous := by
  have known : ∀ entry ∈ (buildAllocation options problem).demands, ∃ demand,
      (expectedDemands (derivation snapshot)).find? entry.demand = some demand ∧
        entry.Closed snapshot demand := by
    intro entry listed
    obtain ⟨demand, member, rfl⟩ := (mem_buildAllocation safe options).mp listed
    refine ⟨derivedDemand snapshot demand, ?_, entryOf_closed accepted safe options member⟩
    rw [expectedDemands_find accepted]
    exact ⟨demand, member, by simp [entryOf], rfl⟩
  have none : (buildAllocation options problem).demands.flatMap
      (unknownDemand (expectedDemands (derivation snapshot))) = [] := by
    rw [unknownDemand_eq_nil]
    intro entry listed
    obtain ⟨demand, found, -⟩ := known entry listed
    exact Option.isSome_iff_exists.mpr ⟨demand, found⟩
  intro constraint reported
  unfold verifyAllocation at reported
  rw [derive_eq accepted, fits] at reported
  dsimp only at reported
  rw [mem_sortConstraints, none] at reported
  rcases List.mem_append.mp reported with scanned | exceeded
  · exact verifyEntries_anonymous _ _ _ known (fun _ inside => absurd inside List.not_mem_nil)
      constraint scanned
  · obtain ⟨residual, -, listed⟩ := List.mem_flatMap.mp exceeded
    unfold oversubscribed at listed
    dsimp only at listed
    split at listed
    · rw [List.mem_singleton] at listed
      subst listed
      exact ⟨rfl, by simp [violation, text, byte]⟩
    · cases listed

end Built

/-! The status block. -/

/-- Only the branch that leaves the floors to the verifier reports a reservation conflict. -/
theorem verdictOf_conflict {policy : Policy} {options : SolveOptions} {problem : Problem} {conflict : Bool}
    (reported : (verdictOf policy options problem conflict).status = .infeasibleReservationConflict) :
    (verdictOf policy options problem conflict).degraded = false := by
  unfold verdictOf certifiedVerdict at reported ⊢
  dsimp only at reported ⊢
  split at reported
  · rename_i conflicted
    rw [if_pos conflicted]
  · split at reported
    · cases reported
    · split at reported
      · cases reported
      · split at reported
        · split at reported
          · cases reported
          · split at reported <;> cases reported
        · split at reported <;> cases reported

theorem unmetConstraints_name {problem : Problem} (detail : Text) {demand : DemandDerivation}
    (member : demand ∈ problem.derivation.demands) (active : demand.active = true)
    (short : (problem.demandOf demand.demand).granted < demand.floor) :
    ∃ constraint ∈ unmetConstraints problem detail, constraint.Names demand.demand := by
  refine ⟨_, List.mem_map_of_mem (List.mem_filter.mpr ⟨member, ?_⟩), Or.inl rfl⟩
  simp [active, short]

/-- Outside the conflict and the policy branch every short demand is listed. -/
theorem verdictOf_names (policy : Policy) (options : SolveOptions) {problem : Problem}
    (unmet : floorsMet problem ≠ true) (admitted : policyBlocked problem ≠ true) {demand : DemandDerivation}
    (member : demand ∈ problem.derivation.demands) (active : demand.active = true)
    (short : (problem.demandOf demand.demand).granted < demand.floor) :
    ∃ constraint ∈ (verdictOf policy options problem false).binding, constraint.Names demand.demand := by
  have listed := fun detail => unmetConstraints_name detail member active short
  unfold verdictOf certifiedVerdict
  dsimp only
  rw [if_neg (by decide), if_neg unmet, if_neg admitted]
  split
  · obtain ⟨constraint, inside, names⟩ := listed (text "the demand hard floor could not be placed")
    split
    · exact ⟨constraint, List.mem_append_right _ inside, names⟩
    · split
      · exact ⟨constraint, List.mem_append_right _ inside, names⟩
      · exact ⟨constraint, List.mem_append_right _ inside, names⟩
  · obtain ⟨constraint, inside, names⟩ := listed
      (text "the demand hard floor could not be placed within the bounded search")
    split
    · exact ⟨constraint, inside, names⟩
    · exact ⟨constraint, List.mem_cons_of_mem _ inside, names⟩

/-- In the policy branch the allocation is degraded, and nothing is listed. -/
theorem verdictOf_blocked (policy : Policy) (options : SolveOptions) {problem : Problem}
    (unmet : floorsMet problem ≠ true) (blocked : policyBlocked problem = true) :
    (verdictOf policy options problem false).degraded = true ∧
      (verdictOf policy options problem false).binding = [] := by
  unfold verdictOf
  dsimp only
  rw [if_neg (by decide), if_neg unmet, if_pos blocked]
  exact ⟨rfl, rfl⟩

/-! Outcomes. -/

/-- The outcome is no success, and an entry of its binding set names the demand unless the set was cut. -/
def SolveOutcome.Reports (outcome : SolveOutcome) (demand : DemandId) : Prop :=
  outcome.status ≠ .feasible ∧ (outcome.feasibility.bindingTruncated = true ∨
    ∃ constraint ∈ outcome.feasibility.binding, constraint.Names demand)

section Concluded

variable {snapshot : FabricSnapshot} {permille : Int} (accepted : Accepted snapshot)
variable {problem : Problem} (safe : problem.Safe snapshot permille) (options : SolveOptions)

include accepted safe

theorem policyBlocked_iff : policyBlocked problem = true ↔ ∃ demand ∈ snapshot.demands,
    demand.effective.covers snapshot.evaluationTick = true ∧ PolicyExcludes snapshot.policy demand ∧
      0 < (derivedDemand snapshot demand).floor := by
  have excluded_of : ∀ demand ∈ snapshot.demands, demand.effective.covers snapshot.evaluationTick = true →
      ((problem.demandOf demand.id).exclusion.isEmpty = false ↔ PolicyExcludes snapshot.policy demand) := by
    intro demand member active
    obtain ⟨state, -, current, -, exclusion⟩ := safe.demand_state accepted member
    have admitted := admitted_iff accepted active
    rw [current, exclusion, List.isEmpty_eq_false_iff]
    exact not_iff_comm.mp admitted.symm
  unfold policyBlocked
  rw [List.any_eq_true, safe.consistent.built.derivation]
  simp only [Bool.and_eq_true, Bool.not_eq_true', decide_eq_true_eq]
  constructor
  · rintro ⟨entry, listed, ⟨active, excluded⟩, positive⟩
    obtain ⟨demand, member, rfl⟩ := List.mem_map.mp listed
    rw [derivedDemand_active] at active
    rw [derivedDemand_demand] at excluded
    exact ⟨demand, member, active, (excluded_of demand member active).mp excluded, positive⟩
  · rintro ⟨demand, member, active, excluded, positive⟩
    refine ⟨_, List.mem_map_of_mem member, ⟨?_, ?_⟩, positive⟩
    · rw [derivedDemand_active, active]
    · rw [derivedDemand_demand]
      exact (excluded_of demand member active).mpr excluded

variable (iterations : Nat) (notes : List Text) (ceiling : Int) (conflict : Bool)

/-- A success leaves no floor short. -/
theorem conclude_feasible (feasible : (conclude snapshot (derivation snapshot) options problem iterations
      notes ceiling conflict).status = .feasible) {demand : Demand} (member : demand ∈ snapshot.demands)
    (active : demand.effective.covers snapshot.evaluationTick = true) :
    (derivedDemand snapshot demand).floor ≤ (problem.demandOf demand.id).granted := by
  apply granted_of_floorsMet accepted safe _ member active
  unfold conclude at feasible
  dsimp only at feasible
  split at feasible
  · exact verdictOf_feasible feasible
  · cases feasible

/-- A short demand is named by the verifier or by the status block. -/
theorem conclude_reports (fits : overflowingResource snapshot = none)
    (told : conflict = true ∨ policyBlocked problem ≠ true) {demand : Demand}
    (member : demand ∈ snapshot.demands)
    (active : demand.effective.covers snapshot.evaluationTick = true)
    (short : (problem.demandOf demand.id).granted < (derivedDemand snapshot demand).floor) :
    (conclude snapshot (derivation snapshot) options problem iterations notes ceiling conflict).Reports
      demand.id := by
  have unmet : floorsMet problem ≠ true := by
    intro met
    have floor := granted_of_floorsMet accepted safe met member active
    omega
  constructor
  · intro feasible
    have floor :=
      conclude_feasible accepted safe options iterations notes ceiling conflict feasible member active
    omega
  · rw [or_iff_not_imp_left, Bool.not_eq_true]
    intro whole
    obtain ⟨constraint, listed, names⟩ : ∃ constraint ∈ (derivation snapshot).constraints ++
        (verdictOf snapshot.policy options problem conflict).binding ++
        verifyAllocation snapshot { buildAllocation options problem with
          degraded := (verdictOf snapshot.policy options problem conflict).degraded },
        constraint.Names demand.id := by
      cases conflict with
      | true =>
          have plain : (verdictOf snapshot.policy options problem true).degraded = false := rfl
          obtain ⟨constraint, reported, names⟩ :=
            verifyAllocation_floor accepted safe options fits member active short
          rw [plain]
          exact ⟨constraint, List.mem_append_right _ reported, names⟩
      | false =>
          have admitted := told.resolve_left (by decide)
          have known : derivedDemand snapshot demand ∈ problem.derivation.demands := by
            rw [safe.consistent.built.derivation]
            exact List.mem_map_of_mem member
          obtain ⟨constraint, reported, names⟩ :=
            verdictOf_names snapshot.policy options unmet admitted known
            (by rw [derivedDemand_active, active]) (by rw [derivedDemand_demand]; exact short)
          rw [derivedDemand_demand] at names
          exact ⟨constraint, List.mem_append_left _ (List.mem_append_right _ reported), names⟩
    exact ⟨constraint, mem_canonicalizeBindings whole constraint listed, names⟩

/-- The policy branch names no demand at all. -/
theorem conclude_hides (fits : overflowingResource snapshot = none) (blocked : policyBlocked problem = true)
    {demand : Demand} (member : demand ∈ snapshot.demands) :
    ∀ constraint ∈ (conclude snapshot (derivation snapshot) options problem iterations notes ceiling
      false).feasibility.binding, ¬ constraint.Names demand.id := by
  have valid := accepted.demand_valid member
  have unmet : floorsMet problem ≠ true := by
    intro met
    obtain ⟨other, inside, active, excluded, positive⟩ := (policyBlocked_iff accepted safe).mp blocked
    have floor := granted_of_floorsMet accepted safe met inside active
    rw [withheld_granted accepted safe inside (.inr excluded)] at floor
    omega
  obtain ⟨degraded, nothing⟩ := verdictOf_blocked snapshot.policy options unmet blocked
  intro constraint listed
  have told := canonicalizeBindings_subset _ constraint listed
  dsimp only at told
  rw [degraded, nothing, List.append_nil] at told
  rcases List.mem_append.mp told with derived | reported
  · exact (derivation_constraints_anonymous snapshot constraint derived).silent valid
  · exact (verifyAllocation_anonymous accepted safe options fits constraint reported).silent valid

end Concluded

/-- The utilisation search only fails over a floor. -/
theorem needing_of_search (problem : Problem) {high : Int} (positive : 0 < high)
    (failed : tightestCeiling problem Limits.maxMaxUtilizationProbes 1 high 0 = 0) :
    needingDemands problem.derivation ≠ [] := by
  intro nothing
  have served : ∀ permille, (certify problem permille).built = true ∧
      (certify problem permille).feasible = true := by
    intro permille
    have routed : routedDemands problem.derivation = [] := by rw [routedDemands, nothing, List.filter_nil]
    have starved : starvedDemands problem.derivation = [] := by
      rw [starvedDemands, nothing, List.filter_nil]
    obtain ⟨built, feasible⟩ := certify_unrouted routed permille
    exact ⟨built, by rw [feasible, starved, List.isEmpty_nil]⟩
  change tightestCeiling problem (63 + 1) 1 high 0 = 0 at failed
  have half : (high - 1).tdiv 2 = (high - 1) / 2 := Int.tdiv_eq_ediv_of_nonneg (by omega)
  have range := tightestCeiling_range problem 63 1 (1 + (high - 1).tdiv 2 - 1) (1 + (high - 1).tdiv 2)
  rw [tightestCeiling, if_pos (by omega)] at failed
  simp only [(served _).1, (served _).2, Bool.not_true, Bool.false_eq_true, ↓reduceIte] at failed
  split at failed <;> omega

/-- Every active demand gets its floor, or the outcome reports it. -/
def NoSilentShortage (snapshot : FabricSnapshot) (outcome : SolveOutcome) : Prop :=
  ∀ demand ∈ snapshot.demands, demand.effective.covers snapshot.evaluationTick = true →
    (derivedDemand snapshot demand).floor ≤ totalGrantedTo outcome.allocation demand.id ∨
      outcome.Reports demand.id

/-- The utilisation search finds a ceiling, and no demand that policy removes has a floor to report, unless
a reservation conflict leaves the floors to the verifier. -/
structure ShortagesNamed (snapshot : FabricSnapshot) (derived : Derivation) : Prop where
  searched : startingCeiling snapshot derived ≠ 0
  admitted : reservationConflict derived = true ∨ ∀ demand ∈ snapshot.demands,
    demand.effective.covers snapshot.evaluationTick = true → PolicyExcludes snapshot.policy demand →
      (derivedDemand snapshot demand).floor ≤ 0

/-- Unless the binding set was cut, no floor is missed in silence exactly when neither the utilisation
search gives up nor the policy branch is taken. -/
theorem noSilentShortage_iff {snapshot : FabricSnapshot} {options : SolveOptions} {derived : Derivation}
    {outcome : SolveOutcome} (accepted : Accepted snapshot) (weights : SupportedWeights snapshot)
    (derives : derive snapshot = .ok derived) (solved : solve snapshot options = .ok outcome) :
    NoSilentShortage snapshot outcome ↔
      ShortagesNamed snapshot derived ∨ outcome.feasibility.bindingTruncated = true := by
  obtain ⟨fits, rfl⟩ := (derive_eq_ok accepted derived).mp derives
  rw [(solve_eq_ok derives solved).2]
  by_cases searched : startingCeiling snapshot (derivation snapshot) = 0
  · have refuses : ¬ Constructs snapshot (derivation snapshot) := fun constructs =>
      constructs.ceiling searched
    obtain ⟨allocation, statuses⟩ := solveDerived_refuses accepted refuses options
    have unsuccessful : (solveDerived snapshot (derivation snapshot) options).status ≠ .feasible := by
      rcases statuses with status | status | status <;> simp [status]
    constructor
    · intro told
      have cap := accepted.policy_cap
      have searches : searchesCeiling snapshot (derivation snapshot) = true := by
        by_contra unsearched
        unfold startingCeiling at searched
        rw [if_neg unsearched] at searched
        omega
      have failed := searched
      unfold startingCeiling at failed
      rw [if_pos searches] at failed
      obtain ⟨demand, needing⟩ := List.exists_mem_of_ne_nil _
        (needing_of_search (makeProblem snapshot (derivation snapshot)) (by omega) failed)
      obtain ⟨active, positive, source, member, rfl⟩ := mem_needingDemands needing
      rw [derivedDemand_active] at active
      rcases told source member active with granted | ⟨-, truncated | ⟨constraint, listed, names⟩⟩
      · rw [allocation] at granted
        change _ ≤ (0 : Int) at granted
        omega
      · exact Or.inr truncated
      · rw [solveDerived_supported weights, if_pos ⟨searched, searches⟩] at listed
        exact absurd names ((searchRefusal_anonymous snapshot _ constraint listed).silent
          (accepted.demand_valid member))
    · rintro (named | truncated)
      · exact absurd searched named.searched
      · intro demand member active
        exact Or.inr ⟨unsuccessful, Or.inl truncated⟩
  · obtain ⟨nonneg, bounded⟩ := startingCeiling_range accepted (derivation snapshot)
    obtain ⟨permille, -, -, safe⟩ := constructed_safe accepted options nonneg bounded
    rw [solveDerived_constructs ⟨weights, searched⟩]
    have total : ∀ demand ∈ snapshot.demands, totalGrantedTo (plan snapshot (derivation snapshot) options
        (startingCeiling snapshot (derivation snapshot))
          (reservationConflict (derivation snapshot))).allocation
          demand.id = ((constructed snapshot (derivation snapshot) options
            (startingCeiling snapshot (derivation snapshot))).demandOf demand.id).granted :=
      fun demand member => totalGrantedTo_built accepted safe options member _
    unfold NoSilentShortage
    unfold plan at total ⊢
    generalize constructed snapshot (derivation snapshot) options
      (startingCeiling snapshot (derivation snapshot)) = problem at safe total ⊢
    generalize constructMinimums snapshot (derivation snapshot) options
      (startingCeiling snapshot (derivation snapshot)) = minimums at total ⊢
    constructor
    · intro told
      rw [or_iff_not_imp_right]
      intro whole
      refine ⟨searched, ?_⟩
      rw [or_iff_not_imp_left]
      intro quiet demand member active excluded
      by_contra positive
      have blocked := (policyBlocked_iff accepted safe).mpr ⟨demand, member, active, excluded, by omega⟩
      have quiet : reservationConflict (derivation snapshot) = false := by simpa using quiet
      rw [quiet] at told whole total
      rcases told demand member active with granted | ⟨-, truncated | ⟨constraint, listed, names⟩⟩
      · rw [total demand member, withheld_granted accepted safe member (.inr excluded)] at granted
        exact positive granted
      · exact whole truncated
      · exact conclude_hides accepted safe options _ _ _ fits blocked member constraint listed names
    · intro either demand member active
      rw [total demand member, or_iff_not_imp_left]
      intro short
      rcases either with named | truncated
      · apply conclude_reports accepted safe options _ _ _ _ fits _ member active (by omega)
        apply named.admitted.imp_right
        intro removed blocked
        obtain ⟨other, inside, active, excluded, positive⟩ := (policyBlocked_iff accepted safe).mp blocked
        have floor := removed other inside active excluded
        omega
      · refine ⟨?_, Or.inl truncated⟩
        intro feasible
        exact short (conclude_feasible accepted safe options _ _ _ _ feasible member active)

theorem noSilentShortage_iff_linkFabric : ∃ outcome, solve linkFabric {} = .ok outcome ∧
    (NoSilentShortage linkFabric outcome ↔
      ShortagesNamed linkFabric (derivation linkFabric) ∨ outcome.feasibility.bindingTruncated = true) := by
  have derives : derive linkFabric = .ok (derivation linkFabric) :=
    (derive_eq_ok linkFabric_accepted _).mpr ⟨by decide +kernel, rfl⟩
  have weights : SupportedWeights linkFabric := by
    unfold SupportedWeights
    decide +kernel
  have solved : solve linkFabric {} = .ok (solveDerived linkFabric (derivation linkFabric) {}) :=
    solve_of_derives derives (by decide)
  exact ⟨_, solved, noSilentShortage_iff linkFabric_accepted weights derives solved⟩

/-- The policy admits another tenant than the one of the demand. -/
def foreignTenantFabric : FabricSnapshot :=
  { linkFabric with policy := { linkFabric.policy with allowedTenants := [named "tenant-2"] } }

/-- The excluded demand is granted nothing of its floor of ten, and the binding set is empty. -/
theorem foreignTenantFabric_silent : Accepted foreignTenantFabric ∧ SupportedWeights foreignTenantFabric ∧
    ∃ outcome, solve foreignTenantFabric {} = .ok outcome ∧ outcome.status = .infeasiblePolicy ∧
      outcome.feasibility.binding = [] ∧ outcome.feasibility.bindingTruncated = false ∧
      ¬ NoSilentShortage foreignTenantFabric outcome := by
  have accepted : Accepted foreignTenantFabric :=
    accepted_of_checks _ (by decide +kernel) (by decide +kernel)
  have derives : derive foreignTenantFabric = .ok (derivation foreignTenantFabric) :=
    (derive_eq_ok accepted _).mpr ⟨by decide +kernel, rfl⟩
  have solved : solve foreignTenantFabric {} =
      .ok (solveDerived foreignTenantFabric (derivation foreignTenantFabric) {}) :=
    solve_of_derives derives (by decide)
  have empty : (solveDerived foreignTenantFabric (derivation foreignTenantFabric) {}).feasibility.binding =
      [] := by decide +kernel
  have whole :
    (solveDerived foreignTenantFabric (derivation foreignTenantFabric) {}).feasibility.bindingTruncated =
      false := by decide +kernel
  refine ⟨accepted, by unfold SupportedWeights; decide +kernel, _, solved, by decide +kernel, empty,
    whole, ?_⟩
  intro told
  rcases told linkDemand (by simp [foreignTenantFabric, linkFabric]) (by decide +kernel) with
    granted | ⟨-, truncated | ⟨constraint, listed, -⟩⟩
  · revert granted
    decide +kernel
  · rw [whole] at truncated
    cases truncated
  · rw [empty] at listed
    cases listed

/-! Floors above the maximum. -/

/-- Some active demand is promised more than it may ever be granted. -/
def OvercommitsDemand (snapshot : FabricSnapshot) : Prop :=
  ∃ demand ∈ snapshot.demands, demand.effective.covers snapshot.evaluationTick = true ∧
    (derivedDemand snapshot demand).maximum < (derivedDemand snapshot demand).floor

/-- A reservation conflict is only ever reported when every floor was placed, which such a demand rules out.
-/
theorem overcommitted_never_conflicts {snapshot : FabricSnapshot} {options : SolveOptions}
    {outcome : SolveOutcome} (accepted : Accepted snapshot) (overcommits : OvercommitsDemand snapshot)
    (solved : solve snapshot options = .ok outcome) :
    outcome.status ≠ .infeasibleReservationConflict := by
  obtain ⟨demand, member, active, exceeded⟩ := overcommits
  intro reported
  obtain ⟨derived, derives⟩ := derives_of_solve solved
  obtain ⟨-, rfl⟩ := (derive_eq_ok accepted derived).mp derives
  rw [(solve_eq_ok derives solved).2] at reported
  by_cases constructs : Constructs snapshot (derivation snapshot)
  · obtain ⟨nonneg, bounded⟩ := startingCeiling_range accepted (derivation snapshot)
    obtain ⟨permille, -, -, safe⟩ := constructed_safe accepted options nonneg bounded
    rw [solveDerived_constructs constructs] at reported
    unfold plan conclude at reported
    dsimp only at reported
    generalize constructed snapshot (derivation snapshot) options
      (startingCeiling snapshot (derivation snapshot)) = problem at safe reported
    split at reported
    · rename_i passed
      have plain := verdictOf_conflict reported
      rw [plain, List.isEmpty_iff, verifyAllocation_eq_nil accepted] at passed
      obtain ⟨other, inside, named, sound⟩ := passed.entries _
        ((mem_buildAllocation safe options).mpr ⟨demand, member, rfl⟩)
      have same : other = demand := by
        apply List.inj_on_of_nodup_map accepted.demand_checks.2 inside member
        simpa [entryOf] using named
      subst same
      have floor := sound.floor (by rw [derivedDemand_active, active]) rfl
      have maximum := sound.maximum
      omega
    · cases reported
  · obtain ⟨-, statuses⟩ := solveDerived_refuses accepted constructs options
    rcases statuses with status | status | status <;> rw [status] at reported <;> cases reported

/-- The reservation of sixty is charged to a demand that may have ten. -/
theorem reservedFabric_overcommits : Accepted reservedFabric ∧ OvercommitsDemand reservedFabric :=
  ⟨accepted_of_checks _ (by decide +kernel) (by decide +kernel), linkDemand,
    by simp [reservedFabric, linkFabric], by decide +kernel, by decide +kernel⟩

theorem overcommitted_never_conflicts_reservedFabric : ∃ outcome, solve reservedFabric {} = .ok outcome ∧
    outcome.status ≠ .infeasibleReservationConflict := by
  have derives : derive reservedFabric = .ok (derivation reservedFabric) :=
    (derive_eq_ok reservedFabric_overcommits.1 _).mpr ⟨by decide +kernel, rfl⟩
  have solved := solve_of_derives derives (by decide : 0 < ({} : SolveOptions).maxIterations)
  exact ⟨_, solved,
    overcommitted_never_conflicts reservedFabric_overcommits.1 reservedFabric_overcommits.2 solved⟩

/-- The reservation is answered as a search that came to no result. -/
theorem reservedFabric_not_conflict : Accepted reservedFabric ∧ SupportedWeights reservedFabric ∧
    OvercommitsDemand reservedFabric ∧
      (solve reservedFabric {}).toOption.map SolveOutcome.status = some .solverLimitReached := by
  obtain ⟨accepted, overcommits⟩ := reservedFabric_overcommits
  exact ⟨accepted, by unfold SupportedWeights; decide +kernel, overcommits, by decide +kernel⟩

end TrafficFabric
