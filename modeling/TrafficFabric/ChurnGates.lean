import TrafficFabric.Accepted
import TrafficFabric.Churn
import TrafficFabric.ScoreSums

set_option autoImplicit false

/- The gates of the churn comparison. A ratio is exact as long as a thousandfold of its part is a number of
the machine; beyond that the helper answers 1000, and the gates follow it. -/
namespace TrafficFabric

/-! The two ratios. -/

/-- The improvement is exact unless the scores are far apart, and then only if nothing is left of the score.
-/
theorem improvement_exact_iff {incumbentScore proposalScore : Int} (positive : 0 < incumbentScore)
    (nonneg : 0 ≤ proposalScore) (bounded : incumbentScore ≤ int64Max) :
    permille (incumbentScore - proposalScore) incumbentScore =
        (1000 * (incumbentScore - proposalScore)).tdiv incumbentScore ↔
      FitsThousandfold (incumbentScore - proposalScore) ∨ proposalScore = 0 := by
  rw [permille_eq positive]
  by_cases fits : FitsThousandfold (incumbentScore - proposalScore)
  · rw [if_pos fits]
    exact iff_of_true rfl (Or.inl fits)
  rw [if_neg fits, or_iff_right fits]
  unfold FitsThousandfold thousandthMax at fits
  unfold int64Max at bounded
  by_cases better : 0 < incumbentScore - proposalScore
  · rw [if_pos better, Int.tdiv_eq_ediv_of_nonneg (by omega)]
    constructor
    · intro exact_
      have reached := Int.ediv_mul_le (1000 * (incumbentScore - proposalScore))
        (b := incumbentScore) (by omega)
      rw [← exact_] at reached
      omega
    · rintro rfl
      rw [Int.sub_zero, Int.mul_ediv_cancel _ (by omega)]
  · -- A loss of more than the whole incumbent score does not round to zero.
    rw [if_neg better]
    have loss : 1000 * (incumbentScore - proposalScore) =
      -(1000 * (proposalScore - incumbentScore)) := by omega
    have large : 1 ≤ 1000 * (proposalScore - incumbentScore) / incumbentScore := by
      rw [Int.le_ediv_iff_mul_le positive]
      omega
    rw [loss, Int.neg_tdiv, Int.tdiv_eq_ediv_of_nonneg (by omega)]
    omega

theorem moved_exact_iff {moved total : Int} (nonneg : 0 ≤ moved) (grounded : 0 ≤ total) :
    permille (min int64Max moved) total = 1000 * moved / total ↔
      total = 0 ∨ moved ≤ thousandthMax ∨ total ≤ moved ∧ 1000 * moved < 1001 * total := by
  by_cases empty : total = 0
  · subst empty
    rw [Int.ediv_zero]
    exact iff_of_true rfl (Or.inl rfl)
  have positive : 0 < total := by omega
  rw [or_iff_right empty]
  by_cases fits : moved ≤ thousandthMax
  · have small : min int64Max moved = moved := by
      unfold thousandthMax at fits
      unfold int64Max
      omega
    rw [small, permille_exact nonneg fits, if_neg (by omega)]
    exact iff_of_true rfl (Or.inl fits)
  rw [or_iff_right fits, permille_eq positive, if_neg (by
    unfold FitsThousandfold thousandthMax int64Max at *
    omega), if_pos (by
    unfold thousandthMax int64Max at *
    omega)]
  constructor
  · intro exact_
    have lower := Int.ediv_mul_le (1000 * moved) (b := total) (by omega)
    have upper := Int.lt_ediv_add_one_mul_self (1000 * moved) positive
    rw [← exact_] at lower upper
    omega
  · rintro ⟨lower, upper⟩
    apply le_antisymm
    · rw [Int.le_ediv_iff_mul_le positive]
      omega
    · apply Int.le_of_lt_add_one
      rw [Int.ediv_lt_iff_lt_mul positive]
      omega

/-! The measurements over exact integers. -/

/-- Amounts are not negative, and the total is the sum of the shares. -/
structure Allocation.Ledgered (allocation : Allocation) : Prop where
  shares : ∀ entry ∈ allocation.demands, ∀ share ∈ entry.shares, 0 ≤ share.granted
  total : allocation.totalGranted =
    ((allocation.demands.flatMap DemandAllocation.shares).map PathShare.granted).sum

def ShareChange.moved (change : ShareChange) : Int :=
  if change.after < change.before then change.before - change.after else change.after - change.before

def exactMoved (incumbent proposal : Allocation) : Int :=
  ((shareChanges incumbent proposal).map ShareChange.moved).sum

def totalBandwidth (incumbent proposal : Allocation) :
    Int := max incumbent.totalGranted proposal.totalGranted

def exactMovedPermille (incumbent proposal : Allocation) : Int :=
  1000 * exactMoved incumbent proposal / totalBandwidth incumbent proposal

def exactImprovement (incumbentScore proposalScore : Int) : Int :=
  if 0 < incumbentScore then (1000 * (incumbentScore - proposalScore)).tdiv incumbentScore
  else if proposalScore ≤ 0 then 0 else -1000

/-- The demands with a share that differs. -/
def affectedDemands (incumbent proposal : Allocation) : Nat :=
  (sortUnique id ((shareChanges incumbent proposal).filterMap ShareChange.demand)).length

/-- The failure domains of either allocation. -/
def touchedDomains (snapshot : FabricSnapshot) (incumbent proposal : Allocation) : List Text :=
  sortUnique id ((domainTotals snapshot incumbent).keys ++ (domainTotals snapshot proposal).keys)

/-- The failure domains whose load differs. -/
def affectedDomains (snapshot : FabricSnapshot) (incumbent proposal : Allocation) : Nat :=
  ((touchedDomains snapshot incumbent proposal).filter fun domain =>
    ((domainTotals snapshot incumbent).find? domain).getD 0 ≠
      ((domainTotals snapshot proposal).find? domain).getD 0).length

/-- The operational risk of a move, with the demands and the failure domains it affects. -/
def riskOf (snapshot : FabricSnapshot) (incumbent proposal : Allocation) (demands domains : Nat) : Int :=
  min 1000 ((exactMovedPermille incumbent proposal * 60 +
    1000 * (demands : Int) / (incumbent.demands.length : Int) * 25 +
    1000 * (domains : Int) / ((touchedDomains snapshot incumbent proposal).length : Int) * 15) / 100)

/-- The gates of the policy. -/
structure PassesGates (policy : Policy) (improvement moved : Int) (demands : Nat) (risk : Int) : Prop where
  improvement : policy.churnImprovementThresholdPermille ≤ improvement
  moved : moved ≤ policy.churnMaxMovedBandwidthPermille
  demands : policy.churnMaxAffectedDemands = 0 ∨ demands ≤ policy.churnMaxAffectedDemands.toNat
  risk : risk ≤ policy.churnMaxOperationalRiskPermille

/-- The same, with what the comparison measures exactly. -/
def PassesExactly (policy : Policy) (snapshot : FabricSnapshot) (incumbent proposal : Allocation)
    (incumbentScore proposalScore : Int) (demands domains : Nat) : Prop :=
  PassesGates policy (exactImprovement incumbentScore proposalScore) (exactMovedPermille incumbent proposal)
    demands (riskOf snapshot incumbent proposal demands domains)

/-- The comparison is defined, what it reports is exact, and it accepts only what passes the gates on exact
values. -/
structure ChurnExact (incumbent proposal : Allocation) (snapshot : FabricSnapshot) (policy : Policy)
    (incumbentScore proposalScore : Int) : Prop where
  defined : ChurnDefined incumbent proposal
  improvement : 0 < incumbentScore →
    (compareChurn incumbent proposal snapshot policy incumbentScore proposalScore).improvementPermille =
      (1000 * (incumbentScore - proposalScore)).tdiv incumbentScore
  moved : (compareChurn incumbent proposal snapshot policy incumbentScore proposalScore).movedPermille =
    exactMovedPermille incumbent proposal
  accepts : (compareChurn incumbent proposal snapshot policy incumbentScore
    proposalScore).decision = .accept →
    proposalScore ≤ incumbentScore ∧
      PassesExactly policy snapshot incumbent proposal incumbentScore proposalScore
      (affectedDemands incumbent proposal) (affectedDomains snapshot incumbent proposal)

/-- The demands whose grants differ have identities, the ratios can be formed, and counts that do not fit 32
bits pass no gate that they fail. -/
structure Measurable (incumbent proposal : Allocation) (snapshot : FabricSnapshot) (policy : Policy)
    (incumbentScore proposalScore : Int) : Prop where
  identified : ∀ change ∈ shareChanges incumbent proposal, change.demand.isSome = true
  improvement : 0 < incumbentScore → FitsThousandfold (incumbentScore - proposalScore) ∨ proposalScore = 0
  moved : totalBandwidth incumbent proposal = 0 ∨ exactMoved incumbent proposal ≤ thousandthMax ∨
    totalBandwidth incumbent proposal ≤ exactMoved incumbent proposal ∧
      1000 * exactMoved incumbent proposal < 1001 * totalBandwidth incumbent proposal
  counts : (incumbent.demands ≠ [] ∨ 0 < incumbent.totalGranted) → proposalScore ≤ incumbentScore →
    PassesExactly policy snapshot incumbent proposal incumbentScore proposalScore
      (affectedDemands incumbent proposal % 2 ^ 32) (affectedDomains snapshot incumbent proposal % 2 ^ 32) →
    PassesExactly policy snapshot incumbent proposal incumbentScore proposalScore
      (affectedDemands incumbent proposal) (affectedDomains snapshot incumbent proposal)

/-! The report. -/

theorem ShareChange.moved_nonneg (change : ShareChange) : 0 ≤ change.moved := by
  unfold ShareChange.moved
  split <;> omega

theorem exactMoved_nonneg (incumbent proposal : Allocation) : 0 ≤ exactMoved incumbent proposal :=
  sum_map_nonneg ShareChange.moved _ fun change _ => change.moved_nonneg

theorem Allocation.Ledgered.total_nonneg {allocation : Allocation} (ledgered : allocation.Ledgered) :
    0 ≤ allocation.totalGranted := by
  rw [ledgered.total]
  apply sum_map_nonneg
  intro share member
  obtain ⟨entry, listed, shares⟩ := List.mem_flatMap.mp member
  exact ledgered.shares entry listed share shares

section Report

variable (incumbent proposal : Allocation) (snapshot : FabricSnapshot) (policy : Policy)
variable (incumbentScore proposalScore : Int)

theorem measureChurn_moved :
    (measureChurn incumbent proposal snapshot policy incumbentScore proposalScore).movedPermille =
      permille (min int64Max (exactMoved incumbent proposal)) (totalBandwidth incumbent proposal) := by
  have summed := foldl_satAdd ShareChange.moved (shareChanges incumbent proposal) 0
    (fun change _ => change.moved_nonneg) (by decide)
  rw [Int.zero_add] at summed
  exact congrArg (fun moved => permille moved (totalBandwidth incumbent proposal)) summed

theorem measureChurn_demands :
    (measureChurn incumbent proposal snapshot policy incumbentScore proposalScore).demandsChanged.toNat =
      affectedDemands incumbent proposal % 2 ^ 32 := rfl

theorem compareChurn_measures :
    (compareChurn incumbent proposal snapshot policy incumbentScore proposalScore).improvementPermille =
        improvementOf incumbentScore proposalScore ∧
      (compareChurn incumbent proposal snapshot policy incumbentScore proposalScore).movedPermille =
        permille (min int64Max (exactMoved incumbent proposal)) (totalBandwidth incumbent proposal) := by
  rw [← measureChurn_moved incumbent proposal snapshot policy incumbentScore proposalScore]
  unfold compareChurn
  dsimp only
  repeat' split
  all_goals exact ⟨rfl, rfl⟩

theorem churnFailures_isEmpty (report : ChurnReport) : (churnFailures policy report).isEmpty = true ↔
    PassesGates policy report.improvementPermille report.movedPermille report.demandsChanged.toNat
      report.operationalRiskPermille := by
  unfold churnFailures
  rw [List.isEmpty_iff, List.append_eq_nil_iff, List.append_eq_nil_iff, List.append_eq_nil_iff]
  have empty : ∀ {gate : Prop} [Decidable gate] {message : Text},
      (if gate then [message] else []) = ([] : List Text) ↔ ¬ gate := by
    intro gate _ message
    by_cases failed : gate
    · simp [failed]
    · simp [failed]
  rw [empty, empty, empty, empty]
  have affected : ¬ (policy.churnMaxAffectedDemands ≠ 0 ∧
      policy.churnMaxAffectedDemands < report.demandsChanged) ↔
      (policy.churnMaxAffectedDemands = 0 ∨
        report.demandsChanged.toNat ≤ policy.churnMaxAffectedDemands.toNat) := by
    rw [not_and_or, not_not, UInt32.lt_iff_toNat_lt, not_lt]
  rw [affected, not_lt, not_lt, not_lt]
  constructor
  · rintro ⟨⟨⟨improvement, moved⟩, demands⟩, risk⟩
    exact ⟨improvement, moved, demands, risk⟩
  · rintro ⟨improvement, moved, demands, risk⟩
    exact ⟨⟨⟨improvement, moved⟩, demands⟩, risk⟩

theorem compareChurn_accepts_iff :
    (compareChurn incumbent proposal snapshot policy incumbentScore proposalScore).decision = .accept ↔
      (incumbent.demands ≠ [] ∨ 0 < incumbent.totalGranted) ∧ proposalScore ≤ incumbentScore ∧
        (churnFailures policy (measureChurn incumbent proposal snapshot policy incumbentScore
          proposalScore)).isEmpty = true := by
  have supplied : (incumbent.demands ≠ [] ∨ 0 < incumbent.totalGranted) ↔
      ¬ (incumbent.demands.isEmpty && decide (incumbent.totalGranted ≤ 0)) = true := by
    rw [Bool.and_eq_true, List.isEmpty_iff, decide_eq_true_eq, not_and_or, not_le]
  unfold compareChurn
  dsimp only
  rw [supplied]
  by_cases absent : (incumbent.demands.isEmpty && decide (incumbent.totalGranted ≤ 0)) = true
  · rw [if_pos absent]
    simp [absent]
  rw [if_neg absent]
  by_cases regresses : incumbentScore < proposalScore
  · rw [if_pos regresses]
    simp [regresses]
  rw [if_neg regresses]
  by_cases passes : (churnFailures policy (measureChurn incumbent proposal snapshot policy incumbentScore
      proposalScore)).isEmpty = true
  · rw [if_pos passes]
    exact iff_of_true rfl ⟨absent, Int.not_lt.mp regresses, passes⟩
  · rw [if_neg passes]
    simp [passes]

/-- The ratio of two counts. -/
theorem permille_count {count : Nat} (small : count < 2 ^ 32) (whole : Nat) :
    permille (count : Int) (whole : Int) = 1000 * (count : Int) / (whole : Int) := by
  rw [permille_exact (by omega) (by unfold thousandthMax; omega)]
  by_cases empty : whole = 0
  · subst empty
    simp
  · rw [if_neg (by omega)]

theorem measureChurn_risk
    (moved : permille (min int64Max (exactMoved incumbent proposal)) (totalBandwidth incumbent proposal) =
      exactMovedPermille incumbent proposal) (grounded : 0 ≤ totalBandwidth incumbent proposal) :
    (measureChurn incumbent proposal snapshot policy incumbentScore proposalScore).operationalRiskPermille =
      riskOf snapshot incumbent proposal (affectedDemands incumbent proposal % 2 ^ 32)
        (affectedDomains snapshot incumbent proposal % 2 ^ 32) := by
  have demands := permille_count (Nat.mod_lt (affectedDemands incumbent proposal) (by decide : 0 < 2 ^ 32))
    incumbent.demands.length
  have domains := permille_count (Nat.mod_lt (affectedDomains snapshot incumbent proposal)
    (by decide : 0 < 2 ^ 32)) (touchedDomains snapshot incumbent proposal).length
  have nonneg : 0 ≤ exactMovedPermille incumbent proposal :=
    Int.ediv_nonneg (by have := exactMoved_nonneg incumbent proposal; omega) grounded
  have demandsNonneg : 0 ≤ 1000 * ((affectedDemands incumbent proposal % 2 ^ 32 : Nat) : Int) /
      (incumbent.demands.length : Int) := Int.ediv_nonneg (by omega) (by omega)
  have domainsNonneg : 0 ≤ 1000 * ((affectedDomains snapshot incumbent proposal % 2 ^ 32 : Nat) : Int) /
      ((touchedDomains snapshot incumbent proposal).length : Int) := Int.ediv_nonneg (by omega) (by omega)
  change min 1000 (((measureChurn incumbent proposal snapshot policy incumbentScore
    proposalScore).movedPermille * 60 + permille ((affectedDemands incumbent proposal % 2 ^ 32 : Nat) : Int)
      (incumbent.demands.length : Int) * 25 + permille
        ((affectedDomains snapshot incumbent proposal % 2 ^ 32 :
        Nat) : Int) ((touchedDomains snapshot incumbent proposal).length : Int) * 15).tdiv 100) = _
  rw [measureChurn_moved, moved, demands, domains, Int.tdiv_eq_ediv_of_nonneg (by omega)]
  rfl

end Report

/-- The comparison is exact, and accepts on exact values only, exactly where its ratios can be formed. -/
theorem churn_exact_iff {incumbent proposal : Allocation} (ledgered : incumbent.Ledgered)
    (snapshot : FabricSnapshot) (policy : Policy)
    {incumbentScore proposalScore : Int} (scores : 0 ≤ incumbentScore ∧ 0 ≤ proposalScore)
    (bounded : incumbentScore ≤ int64Max) :
    ChurnExact incumbent proposal snapshot policy incumbentScore proposalScore ↔
      Measurable incumbent proposal snapshot policy incumbentScore proposalScore := by
  have grounded : 0 ≤ totalBandwidth incumbent proposal :=
    le_max_of_le_left ledgered.total_nonneg
  have nonneg := exactMoved_nonneg incumbent proposal
  obtain ⟨improved, moves⟩ :=
    compareChurn_measures incumbent proposal snapshot policy incumbentScore proposalScore
  have improvement_iff :
    (0 < incumbentScore → (compareChurn incumbent proposal snapshot policy incumbentScore
      proposalScore).improvementPermille = (1000 * (incumbentScore - proposalScore)).tdiv incumbentScore) ↔
      (0 < incumbentScore → FitsThousandfold (incumbentScore - proposalScore) ∨ proposalScore = 0) := by
    apply forall_congr'
    intro positive
    rw [improved, ← improvement_exact_iff positive scores.2 bounded]
    unfold improvementOf
    rw [if_pos positive]
  have moved_iff := moved_exact_iff nonneg grounded
  -- Where both ratios are exact, the gates are those of the report.
  have accepts_iff : ∀ (fits : 0 < incumbentScore →
      FitsThousandfold (incumbentScore - proposalScore) ∨ proposalScore = 0)
      (moved : permille (min int64Max (exactMoved incumbent proposal)) (totalBandwidth incumbent proposal) =
        exactMovedPermille incumbent proposal),
      (compareChurn incumbent proposal snapshot policy incumbentScore proposalScore).decision = .accept ↔
        (incumbent.demands ≠ [] ∨ 0 < incumbent.totalGranted) ∧ proposalScore ≤ incumbentScore ∧
          PassesExactly policy snapshot incumbent proposal incumbentScore proposalScore
            (affectedDemands incumbent proposal % 2 ^ 32)
            (affectedDomains snapshot incumbent proposal % 2 ^ 32) := by
    intro fits moved
    have improvement : improvementOf incumbentScore proposalScore =
        exactImprovement incumbentScore proposalScore := by
      unfold improvementOf exactImprovement
      by_cases positive : 0 < incumbentScore
      · rw [if_pos positive, if_pos positive]
        exact (improvement_exact_iff positive scores.2 bounded).mpr (fits positive)
      · rw [if_neg positive, if_neg positive]
    rw [compareChurn_accepts_iff, churnFailures_isEmpty, measureChurn_moved, measureChurn_demands,
      measureChurn_risk _ _ _ _ _ _ moved grounded, moved]
    unfold PassesExactly
    rw [← improvement]
    rfl
  constructor
  · intro told
    have fits := improvement_iff.mp told.improvement
    have moved := moves.symm.trans told.moved
    refine ⟨told.defined, fits, moved_iff.mp moved, ?_⟩
    intro supplied better passes
    exact (told.accepts ((accepts_iff fits moved).mpr ⟨supplied, better, passes⟩)).2
  · intro measurable
    have moved := moved_iff.mpr measurable.moved
    refine ⟨measurable.identified, improvement_iff.mpr measurable.improvement, moves.trans moved, ?_⟩
    intro accepted
    obtain ⟨supplied, better, passes⟩ := (accepts_iff measurable.improvement moved).mp accepted
    exact ⟨better, measurable.counts supplied better passes⟩

/-! Two fifths of a demand move to another path. -/

def settledIncumbent : Allocation :=
  { demands :=
    [{ demand := named "demand-1", granted := 50, shares := [{ path := named "path-1", granted := 50 }] }]
    totalGranted := 50 }

def movedProposal : Allocation :=
  { demands := [{ demand := named "demand-1"
                  granted := 50
                  shares := [{ path := named "path-1", granted := 30 },
                    { path := named "path-2", granted := 20 }] }]
    totalGranted := 50 }

theorem settledIncumbent_ledgered : settledIncumbent.Ledgered := by
  refine ⟨?_, by decide +kernel⟩
  intro entry listed share member
  rw [List.mem_singleton.mp listed] at member
  rw [List.mem_singleton.mp member]
  decide

/-- Forty of fifty units leave or arrive, for a tenth of the score. -/
theorem churn_exact_iff_movedProposal :
    ChurnExact settledIncumbent movedProposal meshFabric
      { churnImprovementThresholdPermille := 50 } 1000 900 ∧
      (compareChurn settledIncumbent movedProposal meshFabric
        { churnImprovementThresholdPermille := 50 } 1000
        900).decision = .accept ∧
      (compareChurn settledIncumbent movedProposal meshFabric
        { churnImprovementThresholdPermille := 50 } 1000
        900).improvementPermille = 100 ∧
      (compareChurn settledIncumbent movedProposal meshFabric
        { churnImprovementThresholdPermille := 50 } 1000
        900).movedPermille = 800 := by
  have demands : affectedDemands settledIncumbent movedProposal = 1 := by decide +kernel
  have domains : affectedDomains meshFabric settledIncumbent movedProposal = 0 := by decide +kernel
  refine ⟨?_, by decide +kernel, by decide +kernel, by decide +kernel⟩
  apply (churn_exact_iff settledIncumbent_ledgered meshFabric _ ⟨by decide, by decide⟩ (by decide)).mpr
  refine ⟨by decide +kernel, fun _ => Or.inl (by decide), Or.inr (Or.inl (by decide +kernel)), ?_⟩
  intro _ _ passes
  rw [demands, domains] at passes
  rw [demands, domains]
  exact passes

/-! Scores near the bound of the machine. -/

/-- An incumbent with one demand that is granted nothing. -/
def idleIncumbent : Allocation := { demands := [{ demand := named "demand-1" }] }

/-- An improvement of one permille is reported as a thousand, and accepted where fifty are required. -/
theorem negligible_improvement_accepted :
    (compareChurn idleIncumbent idleIncumbent linkFabric { churnImprovementThresholdPermille := 50 }
        9000000000000000000 8990000000000000000).decision = .accept ∧
      (compareChurn idleIncumbent idleIncumbent linkFabric { churnImprovementThresholdPermille := 50 }
        9000000000000000000 8990000000000000000).improvementPermille = 1000 ∧
      ¬ ChurnExact idleIncumbent idleIncumbent linkFabric { churnImprovementThresholdPermille := 50 }
        9000000000000000000 8990000000000000000 := by
  have improved :
    (compareChurn idleIncumbent idleIncumbent linkFabric { churnImprovementThresholdPermille := 50 }
      9000000000000000000 8990000000000000000).improvementPermille = 1000 := by decide +kernel
  refine ⟨by decide +kernel, improved, ?_⟩
  intro exact_
  have told := exact_.improvement (by decide)
  rw [improved] at told
  revert told
  decide

end TrafficFabric
