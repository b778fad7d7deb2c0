import TrafficFabric.Lib.SortOrder
import TrafficFabric.PlainArithmetic

set_option autoImplicit false

/- Which incumbents can be scored and compared without leaving the machine type. The source takes an
incumbent from the wire as it is; what it plans itself is always in range. -/
namespace TrafficFabric

/-! What the solver drafts. -/

section Drafted

variable {allocation : Allocation} (drafted : allocation.Drafted)

include drafted

theorem Allocation.Drafted.share_range : ∀ entry ∈ allocation.demands, ∀ share ∈ entry.shares,
    0 ≤ share.granted ∧ share.granted ≤ Limits.maxBandwidth := by
  intro entry listed share inside
  have range := drafted.entries entry listed
  have part := drafted.share_le listed inside
  exact ⟨drafted.shares entry listed share inside, by omega⟩

theorem Allocation.Drafted.planned : allocation.Planned := by
  intro entry listed share inside
  have range := drafted.share_range entry listed share inside
  have wide : Limits.maxBandwidth ≤ int64Max := by decide
  exact ⟨range.1, by omega⟩

/-- No tenant is granted less than nothing. -/
theorem tenantTotals_nonneg (derived : Derivation) :
    ∀ tenant ∈ (tenantTotals (scoredEntries derived allocation)).entries, 0 ≤ tenant.2.1 := by
  have held : ∀ key totals, (tenantTotals (scoredEntries derived allocation)).find? key = some totals →
      0 ≤ totals.1 ∧ totals.1 ≤ int64Max := by
    unfold tenantTotals
    refine List.foldlRecOn (motive := fun tenants : OrdMap Text (Int × Int) => ∀ key totals,
      tenants.find? key = some totals → 0 ≤ totals.1 ∧ totals.1 ≤ int64Max)
      (scoredEntries derived allocation) _ ?_ ?_
    · intro key totals found
      rw [OrdMap.find?_empty] at found
      cases found
    · intro before range pair member key totals found
      rw [OrdMap.find?_insert] at found
      split at found
      · have granted := (drafted.entries pair.1 (mem_scoredEntries.mp member).1).1
        have start : 0 ≤ ((before.find? pair.2.tenant.str).getD (0, 0)).1 ∧
            ((before.find? pair.2.tenant.str).getD (0, 0)).1 ≤ int64Max := by
          cases known : before.find? pair.2.tenant.str with
          | none => decide
          | some totals => exact range _ _ known
        cases found
        dsimp only
        rw [satAdd_of_nonneg granted start.2]
        have wide : (0 : Int) ≤ int64Max := by decide
        omega
      · exact range key totals found
  intro tenant member
  exact (held tenant.1 tenant.2 ((OrdMap.mem_entries_iff _ _ _).mp member)).1

theorem Allocation.Drafted.entriesFit {snapshot : FabricSnapshot} (accepted : Accepted snapshot) :
    EntriesFit (derivation snapshot) allocation := by
  refine ⟨?_, ?_⟩
  · intro entry listed demand known _
    have wanted := (expected_range accepted known).2.2
    have granted := (drafted.entries entry listed).1
    omega
  · rintro ⟨tenant, member, same⟩
    have granted := tenantTotals_nonneg drafted (derivation snapshot) tenant member
    rw [same] at granted
    exact absurd granted (by decide)

end Drafted

/-! The differences that the solver notes. -/

/-- The first share that the incumbent lists for a planned one lies close enough. -/
def DeltasFit (incumbent proposal : Allocation) : Prop :=
  ∀ entry ∈ proposal.demands, ∀ share ∈ entry.shares,
    share.granted - incumbentShare incumbent entry.demand share.path ≤ int64Max

theorem incumbentShare_held {incumbent : Allocation} {P : Int → Prop}
    (each : ∀ entry ∈ incumbent.demands, ∀ share ∈ entry.shares, P share.granted) (none : P 0)
    (demand : DemandId) (path : PathId) : P (incumbentShare incumbent demand path) := by
  unfold incumbentShare
  split
  · exact none
  · rename_i entry found
    split
    · exact none
    · rename_i share held
      exact each entry (List.mem_of_find?_eq_some found) share (List.mem_of_find?_eq_some held)

/-- Covering the reserved amount changes nothing else in a share. -/
theorem mem_markReserved {remaining : Int} {shares : List PathShare} {share : PathShare}
    (member : share ∈ markReserved remaining shares) :
    ∃ before ∈ shares, share = { before with reserved := share.reserved } := by
  induction shares generalizing remaining with
  | nil => cases member
  | cons first rest ih =>
      rw [markReserved] at member
      split at member
      · exact ⟨share, member, rfl⟩
      · rcases List.mem_cons.mp member with rfl | later
        · exact ⟨first, List.mem_cons_self, rfl⟩
        · obtain ⟨before, inside, same⟩ := ih later
          exact ⟨before, List.mem_cons_of_mem _ inside, same⟩

theorem entryOf_delta {options : SolveOptions} {problem : Problem} {demand : DemandDerivation}
    {share : PathShare}
    (listed : share ∈ (entryOf options problem demand).shares) : share.deltaFromIncumbent =
      if options.hasIncumbent then share.granted - incumbentShare options.incumbent demand.demand share.path
        else 0 := by
  obtain ⟨before, member, same⟩ := mem_markReserved listed
  obtain ⟨held, -, rfl⟩ := List.mem_map.mp member
  rw [same]
  unfold shareOf
  dsimp only
  split <;> rfl

section Built

variable {snapshot : FabricSnapshot} {permille : Int} {problem : Problem} (accepted : Accepted snapshot)
variable (safe : problem.Safe snapshot permille) (options : SolveOptions)

include accepted safe

/-- The shortfalls of an entry are among what its demand asks for. -/
theorem shortfalls_fit {entry : DemandAllocation}
    (listed : entry ∈ (buildAllocation options problem).demands) :
    InInt64 entry.shortfallAgainstMinimum ∧ InInt64 entry.shortfallAgainstDesired := by
  have wide : Limits.maxBandwidth ≤ int64Max ∧ int64Min ≤ 0 := by decide
  obtain ⟨demand, member, rfl⟩ := (mem_buildAllocation safe options).mp listed
  have closes := entryOf_closes accepted safe options member
  have known := (expectedDemands_find accepted demand.id _).mpr ⟨demand, member, rfl, rfl⟩
  obtain ⟨floor, wanted, most⟩ := expected_range accepted known
  obtain ⟨low, -⟩ := entryOf_granted_range accepted safe member options
  have both : ∀ amount : Int, 0 ≤ amount → amount ≤ int64Max →
    InInt64 (if (derivedDemand snapshot demand).active then
      max 0 (amount - (entryOf options problem (derivedDemand snapshot demand)).granted) else 0) := by
    intro amount above below
    unfold InInt64
    split <;> omega
  rw [closes.minimum, closes.desired]
  exact ⟨both _ floor (by omega), both _ (by omega) most⟩

omit accepted in
/-- The difference from the incumbent fits unless the incumbent lists a share far below zero. -/
theorem delta_fits_iff (grants : options.incumbent.Int64Grants) {entry : DemandAllocation}
    (listed : entry ∈ (buildAllocation options problem).demands) {share : PathShare}
    (inside : share ∈ entry.shares)
    (range : 0 ≤ share.granted ∧ share.granted ≤ Limits.maxBandwidth) :
    InInt64 share.deltaFromIncumbent ↔ (options.hasIncumbent = true →
      share.granted - incumbentShare options.incumbent entry.demand share.path ≤ int64Max) := by
  have wide : Limits.maxBandwidth ≤ int64Max := by decide
  have held := incumbentShare_held grants.shares (by decide) entry.demand share.path
  obtain ⟨demand, member, rfl⟩ := (mem_buildAllocation safe options).mp listed
  rw [entryOf_delta inside]
  unfold InInt64 int64Min int64Max at *
  by_cases supplied : options.hasIncumbent = true
  · rw [if_pos supplied]
    simp only [supplied, true_imp_iff]
    show _ ≤ share.granted - incumbentShare options.incumbent
      (derivedDemand snapshot demand).demand share.path ∧
      share.granted - incumbentShare options.incumbent
        (derivedDemand snapshot demand).demand share.path ≤ _ ↔
      share.granted - incumbentShare options.incumbent (derivedDemand snapshot demand).demand share.path ≤ _
    change _ ≤ incumbentShare options.incumbent (derivedDemand snapshot demand).demand share.path ∧
      incumbentShare options.incumbent (derivedDemand snapshot demand).demand share.path ≤ _ at held
    omega
  · rw [if_neg supplied]
    exact iff_of_true (by decide) fun given => absurd given supplied

/-- Of what the solver notes beside an allocation only the differences read the incumbent. -/
theorem builtResults_fit_iff (grants : options.incumbent.Int64Grants)
    (fits : overflowingResource snapshot = none)
    (nonneg : 0 ≤ permille) (bounded : permille ≤ snapshot.policy.maxUtilizationPermille)
    (degraded : Bool) :
    AllInInt64 (builtResults { buildAllocation options problem with degraded := degraded }) ↔
      (options.hasIncumbent = true →
        DeltasFit options.incumbent { buildAllocation options problem with degraded := degraded }) := by
  have drafted := buildAllocation_drafted accepted safe options fits nonneg bounded degraded
  have wide : Limits.maxBandwidth ≤ int64Max ∧ int64Min ≤ 0 := by decide
  have headrooms :
      AllInInt64 ((buildAllocation options problem).resources.map ResourceUtilization.headroom) := by
    intro result member
    obtain ⟨utilization, listed, rfl⟩ := List.mem_map.mp member
    have range := drafted.resources utilization listed
    exact ⟨by omega, by omega⟩
  unfold builtResults DeltasFit
  rw [allInInt64_append]
  unfold AllInInt64 at headrooms ⊢
  rw [List.forall_mem_flatMap]
  constructor
  · rintro ⟨entries, -⟩ supplied entry listed share inside
    exact (delta_fits_iff safe options grants listed inside
      (drafted.share_range entry listed share inside)).mp
      (entries entry listed _ (List.mem_append_right _ (List.mem_map_of_mem inside))) supplied
  · intro deltas
    refine ⟨fun entry listed result member => ?_, headrooms⟩
    rcases List.mem_append.mp member with first | later
    · obtain ⟨minimum, desired⟩ := shortfalls_fit accepted safe options listed
      rcases List.mem_cons.mp first with rfl | second
      · exact minimum
      · rw [List.mem_singleton.mp second]
        exact desired
    · obtain ⟨share, inside, rfl⟩ := List.mem_map.mp later
      exact (delta_fits_iff safe options grants listed inside
        (drafted.share_range entry listed share inside)).mpr
        fun supplied => deltas supplied entry listed share inside

end Built

/-! The comparison. -/

/-- The weighted ratios of the operational risk add up within the machine type, where the moved bandwidth is
small enough to be taken as a ratio at all. -/
def RiskFits (snapshot : FabricSnapshot) (incumbent proposal : Allocation) : Prop :=
  0 < totalBandwidth incumbent proposal → exactMoved incumbent proposal ≤ thousandthMax →
    exactMovedPermille incumbent proposal * 60 +
      1000 * ((affectedDemands incumbent proposal % 2 ^ 32 : Nat) : Int)
        / (incumbent.demands.length : Int) * 25 +
      1000 * ((affectedDomains snapshot incumbent proposal % 2 ^ 32 : Nat) : Int) /
        ((touchedDomains snapshot incumbent proposal).length : Int) * 15 ≤ int64Max

/-- The ratio of a count of 32 bits. -/
theorem count_ratio_range (count whole : Nat) :
    0 ≤ 1000 * ((count % 2 ^ 32 : Nat) : Int) / (whole : Int) ∧
      1000 * ((count % 2 ^ 32 : Nat) : Int) / (whole : Int) ≤ 4294967296000 := by
  have small : count % 2 ^ 32 < 2 ^ 32 := Nat.mod_lt _ (by decide)
  have below := Int.ediv_le_self (whole : Int) (by omega : 0 ≤ 1000 * ((count % 2 ^ 32 : Nat) : Int))
  exact ⟨Int.ediv_nonneg (by omega) (by omega), by omega⟩

theorem scoreFromMetrics_inInt64 (terms : List ObjectiveWeight) (metrics : Metrics) :
    InInt64 (scoreFromMetrics terms metrics).1 :=
  foldl_satAdd_inInt64 ObjectiveComponent.weighted _ (by decide)

theorem scoreAllocation_inInt64 (snapshot : FabricSnapshot) (allocation : Allocation) :
    InInt64 (scoreAllocation snapshot allocation).1 := by
  unfold scoreAllocation
  split
  · decide
  · exact scoreFromMetrics_inInt64 _ _

/-- The solver's own score is not negative. -/
theorem solve_score_range {snapshot : FabricSnapshot} {options : SolveOptions} {outcome : SolveOutcome}
    (accepted : Accepted snapshot) (solved : solve snapshot options = .ok outcome) :
    0 ≤ outcome.score ∧ outcome.score ≤ int64Max := by
  obtain ⟨derived, derives⟩ := derives_of_solve solved
  rw [(solve_eq_ok derives solved).2]
  by_cases constructs : Constructs snapshot derived
  · rw [solveDerived_constructs constructs]
    unfold plan conclude
    dsimp only
    rw [scoreFromMetrics_eq constructs.weights (rawValue_nonneg accepted derived _ options)]
    have weighs := weighed_nonneg constructs.weights (rawValue_nonneg accepted derived
      { buildAllocation options
        (constructed snapshot derived options (startingCeiling snapshot derived)) with
        degraded := (verdictOf snapshot.policy options (constructed snapshot derived options
          (startingCeiling snapshot derived)) (reservationConflict derived)).degraded } options)
    exact ⟨le_min (by decide) weighs, min_le_left _ _⟩
  · rw [solveDerived_refuses_score accepted constructs]
    decide

section Comparison

variable {incumbent proposal : Allocation} (snapshot : FabricSnapshot) (policy : Policy)
variable (incumbentScore proposalScore : Int)

/-- The terms of the risk, as the comparison forms them. -/
theorem riskTerms_fit_iff (nonneg : 0 ≤ totalBandwidth incumbent proposal) :
    AllInInt64 (riskResults
      (permille (min int64Max (exactMoved incumbent proposal)) (totalBandwidth incumbent proposal))
      (permille ((affectedDemands incumbent proposal % 2 ^ 32 : Nat) : Int)
        (incumbent.demands.length : Int))
      (permille ((affectedDomains snapshot incumbent proposal % 2 ^ 32 : Nat) : Int)
        ((touchedDomains snapshot incumbent proposal).length : Int))) ↔
          RiskFits snapshot incumbent proposal := by
  have moved := exactMoved_nonneg incumbent proposal
  have wide : (0 : Int) ≤ int64Max := by decide
  have ratio := permille_nonneg (by omega : 0 ≤ min int64Max (exactMoved incumbent proposal))
    (totalBandwidth incumbent proposal)
  have demands := permille_count (Nat.mod_lt (affectedDemands incumbent proposal) (by decide : 0 < 2 ^ 32))
    incumbent.demands.length
  have domains := permille_count (Nat.mod_lt (affectedDomains snapshot incumbent proposal)
    (by decide : 0 < 2 ^ 32)) (touchedDomains snapshot incumbent proposal).length
  have demandRange := count_ratio_range (affectedDemands incumbent proposal) incumbent.demands.length
  have domainRange := count_ratio_range (affectedDomains snapshot incumbent proposal)
    (touchedDomains snapshot incumbent proposal).length
  rw [demands, domains, riskResults_fit_iff ratio demandRange.1 domainRange.1]
  unfold RiskFits
  by_cases positive : 0 < totalBandwidth incumbent proposal
  · by_cases small : exactMoved incumbent proposal ≤ thousandthMax
    · have fits : min int64Max (exactMoved incumbent proposal) = exactMoved incumbent proposal := by
        unfold thousandthMax int64Max at *
        omega
      rw [fits, permille_exact moved small, if_neg (by omega)]
      simp only [positive, small, true_imp_iff]
      rfl
    · -- Too much moves for a ratio; the helper answers a thousand.
      rw [permille_eq positive, if_neg (by
        rw [fitsThousandfold_iff]
        unfold thousandthMax int64Max at *
        omega), if_pos (by
        unfold thousandthMax int64Max at *
        omega)]
      refine iff_of_true ?_ fun _ within => absurd within small
      unfold int64Max
      omega
  · rw [permille, if_pos (by omega)]
    refine iff_of_true ?_ fun within => absurd within positive
    unfold int64Max
    omega

theorem churnResults_fit_iff (grants : incumbent.Int64Grants) (drafted : proposal.Drafted)
    (held : InInt64 incumbentScore) (planned : 0 ≤ proposalScore ∧ proposalScore ≤ int64Max) :
    AllInInt64 (churnResults incumbent proposal snapshot policy incumbentScore proposalScore) ↔
      SharesFit incumbent proposal ∧ RiskFits snapshot incumbent proposal := by
  have nonneg : 0 ≤ totalBandwidth incumbent proposal := le_max_of_le_right drafted.total_nonneg
  have improvement : AllInInt64 (if 0 < incumbentScore then [incumbentScore - proposalScore] else []) := by
    intro result member
    unfold InInt64 int64Min int64Max at *
    split at member
    · rw [List.mem_singleton.mp member]
      omega
    · cases member
  have moved := measureChurn_moved incumbent proposal snapshot policy incumbentScore proposalScore
  unfold churnResults
  dsimp only
  rw [allInInt64_append, allInInt64_append, changedResults_fit_iff grants drafted.planned, moved,
    ← riskTerms_fit_iff snapshot nonneg]
  constructor
  · rintro ⟨⟨shares, -⟩, risk⟩
    exact ⟨shares, risk⟩
  · rintro ⟨shares, risk⟩
    exact ⟨⟨shares, improvement⟩, risk⟩

variable (incumbent proposal) in
/-- The exact risk is a ratio: it is formed from ratios that are not negative. -/
theorem compareChurn_risk_range :
    0 ≤ (compareChurn incumbent proposal snapshot policy incumbentScore
      proposalScore).operationalRiskPermille ∧
      (compareChurn incumbent proposal snapshot policy incumbentScore
        proposalScore).operationalRiskPermille ≤
        1000 := by
  have moved := exactMoved_nonneg incumbent proposal
  have wide : (0 : Int) ≤ int64Max := by decide
  have ratio := permille_nonneg (by omega : 0 ≤ min int64Max (exactMoved incumbent proposal))
    (totalBandwidth incumbent proposal)
  have demands := permille_nonneg (Int.natCast_nonneg (affectedDemands incumbent proposal % 2 ^ 32))
    (incumbent.demands.length : Int)
  have domains :=
    permille_nonneg (Int.natCast_nonneg (affectedDomains snapshot incumbent proposal % 2 ^ 32))
    ((touchedDomains snapshot incumbent proposal).length : Int)
  have reported : (compareChurn incumbent proposal snapshot policy incumbentScore
      proposalScore).operationalRiskPermille =
      (measureChurn incumbent proposal snapshot policy incumbentScore
        proposalScore).operationalRiskPermille := by
    unfold compareChurn
    dsimp only
    repeat' split
    all_goals rfl
  have composed : (measureChurn incumbent proposal snapshot policy incumbentScore
      proposalScore).operationalRiskPermille = min 1000
        ((permille (min int64Max (exactMoved incumbent proposal)) (totalBandwidth incumbent proposal) * 60 +
          permille ((affectedDemands incumbent proposal % 2 ^ 32 : Nat) : Int)
            (incumbent.demands.length : Int) * 25 +
          permille ((affectedDomains snapshot incumbent proposal % 2 ^ 32 : Nat) : Int)
            ((touchedDomains snapshot incumbent proposal).length : Int) * 15).tdiv 100) := by
    rw [← measureChurn_moved incumbent proposal snapshot policy incumbentScore proposalScore]
    rfl
  have quotient := Int.tdiv_nonneg (b := 100) (by omega : 0 ≤
    permille (min int64Max (exactMoved incumbent proposal)) (totalBandwidth incumbent proposal) * 60 +
      permille ((affectedDemands incumbent proposal % 2 ^ 32 : Nat) : Int)
        (incumbent.demands.length : Int) * 25 +
      permille ((affectedDomains snapshot incumbent proposal % 2 ^ 32 : Nat) : Int)
        ((touchedDomains snapshot incumbent proposal).length : Int) * 15) (by decide)
  rw [reported, composed]
  exact ⟨le_min (by decide) quotient, min_le_left _ _⟩

end Comparison

/-! Incumbents that fit. -/

/-- What the incumbent has to keep to: its entries can be scored, and beside what is planned its shares lie
close enough and move little enough. -/
structure IncumbentFits (snapshot : FabricSnapshot) (options : SolveOptions) : Prop where
  entries : ∀ derived, derive snapshot = .ok derived → EntriesFit derived options.incumbent
  shares : ∀ outcome, solve snapshot options = .ok outcome → SharesFit options.incumbent outcome.allocation
  deltas : options.hasIncumbent = true → ∀ outcome, solve snapshot options = .ok outcome →
    DeltasFit options.incumbent outcome.allocation
  risk : ∀ outcome, solve snapshot options = .ok outcome →
    RiskFits snapshot options.incumbent outcome.allocation

section Incumbent

variable {snapshot : FabricSnapshot} {options : SolveOptions} (accepted : Accepted snapshot)
variable (received : options.incumbent.Received)

include accepted received

theorem scored_fit_iff {derived : Derivation} (derives : derive snapshot = .ok derived) :
    AllInInt64 (metricResults derived options.incumbent {}) ↔ EntriesFit derived options.incumbent := by
  obtain ⟨-, rfl⟩ := (derive_eq_ok accepted derived).mp derives
  have wide : Limits.maxPathsPerDemand ≤ Limits.maxTotalCandidatePaths := by decide
  have narrow : ∀ entry ∈ options.incumbent.demands, entry.shares.length ≤ Limits.maxTotalCandidatePaths :=
    fun entry listed => (received.shareCount entry listed).trans wide
  have idle : ∀ resource ∈ options.incumbent.resources, 0 < resource.available →
      0 ≤ resource.allocated := by
    rw [received.resources]
    exact fun _ member => absurd member List.not_mem_nil
  rw [metricResults_fit_iff accepted received.demandCount narrow idle]
  exact and_iff_left nofun

theorem solved_fit_iff {derived : Derivation} {outcome : SolveOutcome}
    (derives : derive snapshot = .ok derived)
    (solved : solve snapshot options = .ok outcome) (constructs : Constructs snapshot derived) :
    AllInInt64 (builtResults outcome.allocation ++ metricResults derived outcome.allocation options) ↔
      (options.hasIncumbent = true →
        DeltasFit options.incumbent outcome.allocation ∧
          SharesFit options.incumbent outcome.allocation) := by
  have drafted := solve_drafted accepted solved
  have bounded := (solve_bounded accepted solved).allocation
  have built_iff : AllInInt64 (builtResults outcome.allocation) ↔
      (options.hasIncumbent = true → DeltasFit options.incumbent outcome.allocation) := by
    obtain ⟨nonneg, most⟩ := startingCeiling_range accepted derived
    rw [(solve_eq_ok derives solved).2, solveDerived_constructs constructs]
    obtain ⟨degraded, built⟩ := plan_allocation snapshot derived options (startingCeiling snapshot derived)
      (reservationConflict derived)
    obtain ⟨fits, rfl⟩ := (derive_eq_ok accepted derived).mp derives
    obtain ⟨permille, low, high, safe⟩ := constructed_safe accepted options nonneg most
    rw [built]
    exact builtResults_fit_iff accepted safe options received.grants fits low high degraded
  obtain ⟨-, rfl⟩ := (derive_eq_ok accepted derived).mp derives
  rw [allInInt64_append, built_iff, metricResults_fit_iff accepted bounded.demandCount
    (fun entry listed => (bounded.demands entry listed).count)
    (fun resource listed _ => (drafted.resources resource listed).1),
    movedResults_fit_iff received.grants drafted.planned]
  constructor
  · rintro ⟨deltas, -, shares⟩ supplied
    exact ⟨deltas supplied, shares supplied⟩
  · intro both
    exact ⟨fun supplied => (both supplied).1, drafted.entriesFit accepted,
      fun supplied => (both supplied).2⟩

end Incumbent

/-! A bound on the incumbent alone. -/

/-- The bandwidth that the incumbent lists, whatever its sign. -/
def listedBandwidth (allocation : Allocation) : Int :=
  ((listedShares allocation).map fun item => (item.2.natAbs : Int)).sum

/-- An incumbent that no plan can lead out of range. -/
structure IncumbentTame (snapshot : FabricSnapshot) (incumbent : Allocation) : Prop where
  entries : ∀ derived, derive snapshot = .ok derived → EntriesFit derived incumbent
  shares : ∀ entry ∈ incumbent.demands, ∀ share ∈ entry.shares,
    Limits.maxBandwidth - int64Max ≤ share.granted
  total : 61 ≤ incumbent.totalGranted ∨ listedBandwidth incumbent ≤ 150000000000000

/-- A table holds no more than what is listed. -/
theorem shareTable_total_le (allocation : Allocation) :
    OrdMap.total (fun _ amount => (amount.natAbs : Int)) (shareTable allocation) ≤
      listedBandwidth allocation := by
  have inserted := OrdMap.total_foldl_insert_le
    (fun (_ : Text ×ₗ Text) (amount : Int) => Int.natCast_nonneg amount.natAbs) Prod.fst Prod.snd
    (listedShares allocation) OrdMap.empty
  rw [shareTable_eq]
  exact inserted.trans_eq (Int.zero_add _)

/-- What moves is held before or after. -/
theorem exactMoved_le (incumbent proposal : Allocation) :
    exactMoved incumbent proposal ≤ listedBandwidth incumbent + listedBandwidth proposal := by
  have summed : ∀ keys : List (Text ×ₗ Text), ((keys.filterMap fun key =>
      if ((shareTable incumbent).find? key).getD 0 = ((shareTable proposal).find? key).getD 0 then none
      else some (⟨Id.parse (ofLex key).1, ((shareTable incumbent).find? key).getD 0,
        ((shareTable proposal).find? key).getD 0⟩ : ShareChange)).map ShareChange.moved).sum ≤
      (keys.map fun key => ((shareTable incumbent).find? key).elim 0 fun amount =>
        (amount.natAbs : Int)).sum +
        (keys.map fun key => ((shareTable proposal).find? key).elim 0 fun amount =>
          (amount.natAbs : Int)).sum := by
    have read : ∀ value : Option Int, (value.elim 0 fun amount => (amount.natAbs : Int)) =
        (value.getD 0).natAbs := by
      intro value
      cases value <;> rfl
    intro keys
    induction keys with
    | nil => exact le_refl 0
    | cons key rest ih =>
        rw [List.filterMap_cons, List.map_cons, List.map_cons, List.sum_cons, List.sum_cons, read, read]
        by_cases same : ((shareTable incumbent).find? key).getD 0 = ((shareTable proposal).find? key).getD 0
        · rw [if_pos same]
          dsimp only
          omega
        · rw [if_neg same]
          dsimp only
          rw [List.map_cons, List.sum_cons, ShareChange.moved]
          dsimp only
          split <;> omega
  have distinct : (sortUnique id ((shareTable incumbent).keys ++ (shareTable proposal).keys)).Nodup := by
    have keyed := nodup_sortUnique id ((shareTable incumbent).keys ++ (shareTable proposal).keys)
    rwa [List.map_id] at keyed
  have first := OrdMap.total_eq_sum (fun _ amount => (amount.natAbs : Int)) (shareTable incumbent) distinct
    fun key held => (mem_sortUnique_id _ _).mpr (List.mem_append_left _ held)
  have second := OrdMap.total_eq_sum (fun _ amount => (amount.natAbs : Int)) (shareTable proposal) distinct
    fun key held => (mem_sortUnique_id _ _).mpr (List.mem_append_right _ held)
  have before := shareTable_total_le incumbent
  have after := shareTable_total_le proposal
  have moved := summed (sortUnique id ((shareTable incumbent).keys ++ (shareTable proposal).keys))
  rw [← first, ← second] at moved
  exact moved.trans (Int.add_le_add before after)

/-- A drafted allocation lists what it grants. -/
theorem Allocation.Drafted.listed {allocation : Allocation} (drafted : allocation.Drafted) :
    listedBandwidth allocation = allocation.totalGranted := by
  unfold listedBandwidth listedShares
  rw [drafted.total, sum_map_flatMap]
  congr 1
  apply List.map_congr_left
  intro entry listed
  rw [drafted.carried entry listed, List.map_map]
  congr 1
  apply List.map_congr_left
  intro share inside
  have nonneg := drafted.shares entry listed share inside
  rw [Function.comp_apply]
  omega

theorem riskFits_of_tame (snapshot : FabricSnapshot) {incumbent proposal : Allocation}
    (drafted : proposal.Drafted)
    (total : 61 ≤ incumbent.totalGranted ∨ listedBandwidth incumbent ≤ 150000000000000) :
    RiskFits snapshot incumbent proposal := by
  intro positive small
  have demands := count_ratio_range (affectedDemands incumbent proposal) incumbent.demands.length
  have domains := count_ratio_range (affectedDomains snapshot incumbent proposal)
    (touchedDomains snapshot incumbent proposal).length
  have nonneg := exactMoved_nonneg incumbent proposal
  have ratio : exactMovedPermille incumbent proposal ≤ 151202820276307787 := by
    unfold exactMovedPermille
    by_cases large : 61 ≤ totalBandwidth incumbent proposal
    · have wider : (151202820276307787 : Int) * 61 ≤
        151202820276307787 * totalBandwidth incumbent proposal :=
        Int.mul_le_mul_of_nonneg_left large (by decide)
      unfold thousandthMax at small
      exact Int.ediv_le_of_le_mul positive (by omega)
    · have moved := exactMoved_le incumbent proposal
      have planned := drafted.listed
      have parts : incumbent.totalGranted ≤ totalBandwidth incumbent proposal ∧
          proposal.totalGranted ≤ totalBandwidth incumbent proposal := ⟨le_max_left _ _, le_max_right _ _⟩
      have whole := Int.ediv_le_self (totalBandwidth incumbent proposal)
        (by omega : 0 ≤ 1000 * exactMoved incumbent proposal)
      omega
  unfold int64Max
  omega

theorem IncumbentTame.fits {snapshot : FabricSnapshot} (accepted : Accepted snapshot)
    {options : SolveOptions}
    (tame : IncumbentTame snapshot options.incumbent) : IncumbentFits snapshot options := by
  have low : Limits.maxBandwidth - int64Max ≤ 0 ∧ (0 : Int) ≤ Limits.maxBandwidth := by decide
  refine ⟨tame.entries, ?_, ?_, ?_⟩
  · intro outcome solved key _
    have drafted := solve_drafted accepted solved
    have held :=
      shareTable_held (P := fun granted => Limits.maxBandwidth - int64Max ≤ granted) tame.shares low.1 key
    have planned := shareTable_held (P := fun granted => granted ≤ Limits.maxBandwidth)
      (fun entry listed share inside => (drafted.share_range entry listed share inside).2) low.2 key
    omega
  · intro _ outcome solved entry listed share inside
    have held :=
      incumbentShare_held (P := fun granted => Limits.maxBandwidth - int64Max ≤ granted) tame.shares low.1
      entry.demand share.path
    have planned := ((solve_drafted accepted solved).share_range entry listed share inside).2
    omega
  · intro outcome solved
    exact riskFits_of_tame snapshot (solve_drafted accepted solved) tame.total

/-- No operation on an incumbent from the wire leaves the machine type exactly where the incumbent fits. -/
theorem incumbent_exact_iff {snapshot : FabricSnapshot} {options : SolveOptions} {payload : List UInt8}
    (accepted : Accepted snapshot) (decoded : decodeAllocation payload = .ok options.incumbent) :
    (IncumbentExact snapshot options ↔ IncumbentFits snapshot options) ∧
      (IncumbentTame snapshot options.incumbent → IncumbentFits snapshot options) := by
  have received := decodeAllocation_received decoded
  have compared_iff : ∀ {outcome : SolveOutcome}, solve snapshot options = .ok outcome →
      (AllInInt64 (churnResults options.incumbent outcome.allocation snapshot snapshot.policy
        (scoreAllocation snapshot options.incumbent).1 outcome.score) ↔
        SharesFit options.incumbent outcome.allocation ∧
          RiskFits snapshot options.incumbent outcome.allocation) :=
    fun solved => churnResults_fit_iff snapshot snapshot.policy _ _ received.grants
      (solve_drafted accepted solved)
      (scoreAllocation_inInt64 snapshot options.incumbent) (solve_score_range accepted solved)
  refine ⟨⟨fun exact_ => ?_, fun fits => ?_⟩, IncumbentTame.fits accepted⟩
  · refine ⟨?_, ?_, ?_, ?_⟩
    · exact fun derived derives =>
        (scored_fit_iff accepted received derives).mp (exact_.scored derived derives)
    · exact fun outcome solved => ((compared_iff solved).mp (exact_.compared outcome solved)).1
    · intro supplied outcome solved
      obtain ⟨derived, derives⟩ := derives_of_solve solved
      by_cases constructs : Constructs snapshot derived
      · exact ((solved_fit_iff accepted received derives solved constructs).mp
          (exact_.solved derived outcome derives solved constructs) supplied).1
      · -- A refusal plans no share that could differ.
        rw [(solve_eq_ok derives solved).2]
        unfold DeltasFit
        rw [(solveDerived_refuses accepted constructs options).1]
        exact fun _ member => absurd member List.not_mem_nil
    · exact fun outcome solved => ((compared_iff solved).mp (exact_.compared outcome solved)).2
  · refine ⟨?_, ?_, ?_, ?_⟩
    · exact fun derived derives =>
        (scored_fit_iff accepted received derives).mpr (fits.entries derived derives)
    · intro derived outcome derives solved constructs
      exact (solved_fit_iff accepted received derives solved constructs).mpr fun supplied =>
        ⟨fits.deltas supplied outcome solved, fits.shares outcome solved⟩
    · exact fun outcome solved =>
        (compared_iff solved).mpr ⟨fits.shares outcome solved, fits.risk outcome solved⟩
    · exact fun outcome _ => compareChurn_risk_range _ _ _ _ _ _

/-- An incumbent that grants the demand of the link fabric half of what it asks for. -/
def halfIncumbent : Allocation :=
  { demands := [{ demand := linkDemand.id, generation := Gen.first, granted := 5,
                  shares := [{ path := linkPath.id, generation := Gen.first, granted := 5 }] }]
    totalGranted := 5 }

theorem incumbent_exact_iff_halfIncumbent :
    IncumbentExact linkFabric { hasIncumbent := true, incumbent := halfIncumbent } := by
  have decoded : decodeAllocation (encodeAllocation halfIncumbent) = .ok halfIncumbent := by decide +kernel
  have tame : IncumbentTame linkFabric halfIncumbent := by
    refine ⟨?_, ?_, Or.inr (by decide +kernel)⟩
    · intro derived derives
      obtain ⟨-, rfl⟩ := (derive_eq_ok linkFabric_accepted derived).mp derives
      refine ⟨?_, ?_⟩
      · intro entry listed demand known _
        obtain rfl := List.mem_singleton.mp listed
        have wanted := (expected_range linkFabric_accepted known).2.2
        change demand.desired - int64Max ≤ 5
        omega
      · rintro ⟨tenant, member, starved⟩
        have single :
          ∀ tenant ∈ (tenantTotals (scoredEntries (derivation linkFabric) halfIncumbent)).entries,
            tenant.2 ≠ (-thousandthMax, 1) := by decide +kernel
        exact absurd starved (single tenant member)
    · intro entry listed share inside
      obtain rfl := List.mem_singleton.mp listed
      obtain rfl := List.mem_singleton.mp inside
      decide
  have fits : (IncumbentExact linkFabric { hasIncumbent := true, incumbent := halfIncumbent } ↔ _) ∧ _ :=
    incumbent_exact_iff linkFabric_accepted decoded
  exact fits.1.mpr (fits.2 tame)

/-- An incumbent with an entry far below zero, and a share that its total does not cover. -/
def hostileIncumbent : Allocation :=
  { demands :=
      [{ demand := linkDemand.id
         generation := Gen.first
         granted := int64Min
         shares := [{ path := linkPath.id, generation := Gen.first, granted := 9000000000000000 }] }]
    totalGranted := 1 }

/-- The decoder takes it; its shortfall and its moved bandwidth times sixty do not fit. -/
theorem hostileIncumbent_overflows :
    decodeAllocation (encodeAllocation hostileIncumbent) = .ok hostileIncumbent ∧
      9223372036854775818 ∈ metricResults (derivation linkFabric) hostileIncumbent {} ∧
      (∃ outcome, solve linkFabric { hasIncumbent := true, incumbent := hostileIncumbent } = .ok outcome ∧
        (compareChurn hostileIncumbent outcome.allocation linkFabric linkFabric.policy
          (scoreAllocation linkFabric hostileIncumbent).1 outcome.score).movedPermille * 60 =
            53999999999999940000) ∧
      ¬ IncumbentExact linkFabric { hasIncumbent := true, incumbent := hostileIncumbent } := by
  have derives : derive linkFabric = .ok (derivation linkFabric) :=
    (derive_eq_ok linkFabric_accepted _).mpr ⟨by decide +kernel, rfl⟩
  have solved : solve linkFabric { hasIncumbent := true, incumbent := hostileIncumbent } = .ok _ :=
    solve_of_derives derives (by decide)
  have short : 9223372036854775818 ∈ metricResults (derivation linkFabric) hostileIncumbent {} := by
    decide +kernel
  refine ⟨by decide +kernel, short, ⟨_, solved, by decide +kernel⟩, ?_⟩
  intro exact_
  exact absurd (exact_.scored _ derives _ short) (by decide)

end TrafficFabric
