import TrafficFabric.AllocationBooks
import TrafficFabric.ChurnGates
import TrafficFabric.PlanChecks
import TrafficFabric.TransportedScores

set_option autoImplicit false

/- The operations on the amounts of an incumbent that the source leaves to the machine. The saturating
helpers stop at the bounds; a plain subtraction or product does not, so each is listed here by its exact
result. -/
namespace TrafficFabric

/-- Every result is one that a 64-bit signed variable can hold. -/
def AllInInt64 (results : List Int) : Prop := ∀ result ∈ results, InInt64 result

theorem allInInt64_append (first second : List Int) :
    AllInInt64 (first ++ second) ↔ AllInInt64 first ∧ AllInInt64 second := List.forall_mem_append

/-! The operations of the source. -/

/-- The values of a counter that is incremented. -/
def countingResults (count : Nat) : List Int := (List.range count).map fun before :
    Nat => ((before + 1 : Nat) : Int)

/-- The shortfalls of one entry. -/
def shortfallResults (pair : DemandAllocation × DemandDerivation) : List Int :=
  (if pair.1.granted < pair.2.floor then [pair.2.floor - pair.1.granted] else []) ++
    (if pair.1.granted < pair.2.desired then [pair.2.desired - pair.1.granted] else [])

/-- What moves on each demand and path of either table. -/
def movedResults (before after : OrdMap (Text ×ₗ Text) Int) : List Int :=
  (sortUnique id (before.keys ++ after.keys)).map fun key =>
    let left := (before.find? key).getD 0
    let right := (after.find? key).getD 0
    if right < left then left - right else right - left

/-- `compute_metrics`. -/
def metricResults (derived : Derivation) (allocation : Allocation) (options : SolveOptions) : List Int :=
  let scored := scoredEntries derived allocation
  scored.flatMap shortfallResults ++
    countingResults (scored.flatMap fun pair => usedSharesOf pair.1).length ++
    (if options.hasIncumbent then movedResults (shareTable options.incumbent)
      (shareTable allocation) else []) ++
    countingResults (derived.reservations.filter fun accounting =>
      accounting.displaceable && accounting.active).length ++
    ((allocation.resources.filter fun resource => decide (0 < resource.available)).map fun resource =>
      (satMul resource.allocated (permille resource.allocated resource.available)).tdiv 1000) ++
    [fairnessSpread (tenantTotals scored)]

/-- The loops of `solve` that build the allocation; each result is a field of it. -/
def builtResults (allocation : Allocation) : List Int :=
  (allocation.demands.flatMap fun entry =>
    [entry.shortfallAgainstMinimum, entry.shortfallAgainstDesired] ++
      entry.shares.map PathShare.deltaFromIncumbent) ++
    allocation.resources.map ResourceUtilization.headroom

/-- The terms of the operational risk, their sums and the quotient. -/
def riskResults (moved demands domains : Int) : List Int :=
  [moved * 60, demands * 25, moved * 60 + demands * 25, domains * 15,
    moved * 60 + demands * 25 + domains * 15, (moved * 60 + demands * 25 + domains * 15).tdiv 100]

/-- `compare_churn`. -/
def churnResults (incumbent proposal : Allocation) (snapshot : FabricSnapshot) (policy : Policy)
    (incumbentScore proposalScore : Int) : List Int :=
  let report := measureChurn incumbent proposal snapshot policy incumbentScore proposalScore
  (shareChanges incumbent proposal).map ShareChange.moved ++
    (if 0 < incumbentScore then [incumbentScore - proposalScore] else []) ++
    riskResults report.movedPermille (permille report.demandsChanged.toNat incumbent.demands.length)
      (permille report.failureDomainsChanged.toNat (touchedDomains snapshot incumbent proposal).length)

/-- No plain operation on the incumbent leaves the machine type, and the risk is a ratio. -/
structure IncumbentExact (snapshot : FabricSnapshot) (options : SolveOptions) : Prop where
  scored : ∀ derived, derive snapshot = .ok derived →
    AllInInt64 (metricResults derived options.incumbent {})
  solved : ∀ derived outcome, derive snapshot = .ok derived → solve snapshot options = .ok outcome →
    Constructs snapshot derived →
      AllInInt64 (builtResults outcome.allocation ++ metricResults derived outcome.allocation options)
  compared : ∀ outcome, solve snapshot options = .ok outcome →
    AllInInt64 (churnResults options.incumbent outcome.allocation snapshot snapshot.policy
      (scoreAllocation snapshot options.incumbent).1 outcome.score)
  risk : ∀ outcome, solve snapshot options = .ok outcome →
    0 ≤ (compareChurn options.incumbent outcome.allocation snapshot snapshot.policy
        (scoreAllocation snapshot options.incumbent).1 outcome.score).operationalRiskPermille ∧
      (compareChurn options.incumbent outcome.allocation snapshot snapshot.policy
        (scoreAllocation snapshot options.incumbent).1 outcome.score).operationalRiskPermille ≤ 1000

/-! What the decoder lets through. -/

/-- What is known of an incumbent that was received: its grants fit the machine, and its lists are bounded.
-/
structure Allocation.Received (allocation : Allocation) : Prop where
  grants : allocation.Int64Grants
  demandCount : allocation.demands.length ≤ Limits.maxDemands
  shareCount : ∀ entry ∈ allocation.demands, entry.shares.length ≤ Limits.maxPathsPerDemand
  resources : allocation.resources = []

namespace Wire

theorem i64_gives (code : ErrorCode) (detail : String) : Gives (need Reader.i64 code detail) InInt64 := by
  intro input result read
  unfold need Reader.i64 Reader.mapped at read
  cases found : Reader.u64 input with
  | none =>
      rw [found] at read
      cases read
  | some pair =>
      rw [found] at read
      cases read
      exact Reader.signed_fits pair.1

theorem carriedShare_gives : Gives readCarriedShare fun share => InInt64 share.granted := by
  refine Gives.after fun _ => Gives.after fun _ => ?_
  refine (i64_gives _ _).bind fun _ granted => Gives.after fun _ => ?_
  exact Gives.pure granted

theorem carriedDemand_gives : Gives readCarriedDemand fun entry => InInt64 entry.granted ∧
    entry.shares.length ≤ Limits.maxPathsPerDemand ∧ ∀ share ∈ entry.shares, InInt64 share.granted := by
  refine Gives.after fun _ => Gives.after fun _ => Gives.after fun _ => Gives.after fun _ =>
    Gives.after fun _ => ?_
  refine (i64_gives _ _).bind fun _ granted => Gives.after fun _ => Gives.after fun _ => ?_
  refine (PlanCodec.bounded_gives carriedShare_gives _ _ _).bind fun _ shares => ?_
  exact Gives.pure ⟨granted, shares⟩

theorem carriedAllocation_gives : Gives readCarriedAllocation Allocation.Received := by
  refine Gives.after fun _ => Gives.after fun _ => ?_
  refine (PlanCodec.bounded_gives carriedDemand_gives _ _ _).bind fun _ demands => ?_
  refine (i64_gives _ _).bind fun _ total => Gives.after fun _ => Gives.after fun _ => ?_
  refine Gives.pure ⟨⟨?_, ?_, total⟩, demands.1, ?_, rfl⟩
  · exact fun entry member => (demands.2 entry member).1
  · exact fun entry member => (demands.2 entry member).2.2
  · exact fun entry member => (demands.2 entry member).2.1

end Wire

theorem decodeAllocation_received {payload : List UInt8} {allocation : Allocation}
    (decoded : decodeAllocation payload = .ok allocation) : allocation.Received := by
  unfold decodeAllocation decodeWhole at decoded
  cases read : Wire.readCarriedAllocation payload with
  | error reason =>
      rw [read] at decoded
      cases decoded
  | ok pair =>
      have received := Wire.carriedAllocation_gives payload pair read
      rw [read] at decoded
      dsimp only at decoded
      split at decoded
      · cases decoded
        exact received
      · cases decoded

/-! Ranges. -/

theorem shortfallResults_fit_iff {pair : DemandAllocation × DemandDerivation}
    (wanted : pair.2.floor ≤ pair.2.desired) :
    AllInInt64 (shortfallResults pair) ↔ pair.2.desired - int64Max ≤ pair.1.granted := by
  unfold shortfallResults
  rw [allInInt64_append]
  unfold AllInInt64 InInt64 int64Min int64Max
  by_cases short : pair.1.granted < pair.2.desired
  · rw [if_pos short, List.forall_mem_singleton]
    by_cases starved : pair.1.granted < pair.2.floor
    · rw [if_pos starved, List.forall_mem_singleton]
      omega
    · rw [if_neg starved]
      constructor
      · rintro ⟨-, desired⟩
        omega
      · intro fits
        exact ⟨fun _ member => absurd member List.not_mem_nil, by omega⟩
  · rw [if_neg short, if_neg (by omega)]
    refine iff_of_true ⟨?_, ?_⟩ (by omega)
    · exact fun _ member => absurd member List.not_mem_nil
    · exact fun _ member => absurd member List.not_mem_nil

theorem countingResults_fit {count : Nat} (small : (count : Int) ≤ int64Max) :
    AllInInt64 (countingResults count) := by
  intro result member
  obtain ⟨before, inside, rfl⟩ := List.mem_map.mp member
  have below := List.mem_range.mp inside
  unfold InInt64 int64Min int64Max at *
  omega

/-- What differs from a value that is not negative fits, unless it lies too far below. -/
theorem difference_fits_iff {left right : Int} (held : InInt64 left)
    (planned : 0 ≤ right ∧ right ≤ int64Max) :
    InInt64 (if right < left then left - right else right - left) ↔ right - left ≤ int64Max := by
  unfold InInt64 int64Min int64Max at *
  split <;> omega

theorem riskResults_fit_iff {moved demands domains : Int} (nonneg : 0 ≤ moved) (counted : 0 ≤ demands)
    (touched : 0 ≤ domains) : AllInInt64 (riskResults moved demands domains) ↔
      moved * 60 + demands * 25 + domains * 15 ≤ int64Max := by
  have quotient := Int.tdiv_eq_ediv_of_nonneg (b := 100)
    (by omega : 0 ≤ moved * 60 + demands * 25 + domains * 15)
  unfold AllInInt64 riskResults
  rw [quotient]
  simp only [List.forall_mem_cons, List.not_mem_nil, false_imp_iff, forall_const, and_true]
  unfold InInt64 int64Min int64Max
  omega

/-! The fairness spread. -/

/-- The one ratio so far below that another one can exceed it by more than the machine holds. -/
theorem permille_lowest_iff {part whole : Int} (positive : 0 < whole) :
    permille part whole < 1000 - int64Max ↔ part = -thousandthMax ∧ whole = 1 := by
  rw [permille_eq positive]
  constructor
  · intro low
    unfold int64Max at low
    by_cases fits : FitsThousandfold part
    · have negated : 1000 * part = -(1000 * -part) := by omega
      rw [if_pos fits] at low
      rw [fitsThousandfold_iff] at fits
      have nonpos : part ≤ 0 := by
        by_contra above
        have gain : 0 ≤ (1000 * part).tdiv whole := Int.tdiv_nonneg (by omega) (by omega)
        omega
      rw [negated, Int.neg_tdiv, Int.tdiv_eq_ediv_of_nonneg (by omega)] at low
      have high : 9223372036854774808 ≤ 1000 * -part / whole := by omega
      rw [Int.le_ediv_iff_mul_le positive] at high
      have unit : whole = 1 := by
        by_contra larger
        have twice : (9223372036854774808 : Int) * 2 ≤ 9223372036854774808 * whole :=
          Int.mul_le_mul_of_nonneg_left (by omega) (by decide)
        omega
      subst unit
      unfold thousandthMax
      omega
    · rw [if_neg fits] at low
      split at low <;> omega
  · rintro ⟨rfl, rfl⟩
    decide

theorem permille_least (part whole : Int) : -(1000 * thousandthMax) ≤ permille part whole := by
  by_cases positive : 0 < whole
  · rw [permille_eq positive]
    split
    · rename_i fits
      have smaller := Int.natAbs_tdiv_le_natAbs (1000 * part) whole
      rw [fitsThousandfold_iff] at fits
      unfold thousandthMax
      omega
    · split <;> decide
  · unfold permille
    rw [if_pos (by omega)]
    decide

/-- No tenant is so far below what it is to get that the spread over the others does not fit. -/
def SpreadFits (totals : OrdMap Text (Int × Int)) : Prop :=
  (∃ tenant ∈ totals.entries, tenant.2 = (-thousandthMax, 1)) → ∀ tenant ∈ totals.entries,
    tenantRatio tenant.2 < 808

theorem tenantRatio_le (totals : Int × Int) : tenantRatio totals ≤ 1000 := by
  unfold tenantRatio
  split
  · exact le_refl 1000
  · exact min_le_left _ _

theorem tenantRatio_lowest_iff (totals : Int × Int) :
    tenantRatio totals < 1000 - int64Max ↔ totals = (-thousandthMax, 1) := by
  unfold tenantRatio
  have wide : 1000 - int64Max ≤ 1000 := by decide
  by_cases empty : totals.2 ≤ 0
  · rw [if_pos empty]
    refine iff_of_false (by omega) ?_
    rintro rfl
    exact absurd empty (by decide)
  · have lowest : permille totals.1 totals.2 < 1000 - int64Max ↔ totals.1 = -thousandthMax ∧ totals.2 = 1 :=
      permille_lowest_iff (by omega)
    rw [if_neg empty, Prod.ext_iff]
    omega

theorem fairnessSpread_fits_iff (totals : OrdMap Text (Int × Int)) :
    InInt64 (fairnessSpread totals) ↔ SpreadFits totals := by
  have grounded := fairnessSpread_nonneg totals
  by_cases empty : totals.entries = []
  · have none : fairnessSpread totals = 0 := by
      unfold fairnessSpread
      rw [empty]
      rfl
    rw [none]
    refine iff_of_true (by decide) ?_
    rintro ⟨tenant, member, -⟩
    rw [empty] at member
    cases member
  have spread : fairnessSpread totals =
      totals.entries.foldl (fun most tenant => max most (tenantRatio tenant.2)) 0 -
        if totals.entries.foldl (fun least tenant => min least (tenantRatio tenant.2)) int64Max =
          int64Max then 0
        else totals.entries.foldl (fun least tenant => min least (tenantRatio tenant.2)) int64Max := by
    unfold fairnessSpread
    rw [if_neg (by rwa [List.isEmpty_iff])]
    dsimp only
    rw [List.foldl_map, List.foldl_map]
  obtain ⟨-, below⟩ :=
    foldl_min_le (fun tenant : Text × Int × Int => tenantRatio tenant.2) totals.entries int64Max
  obtain ⟨-, above⟩ := le_foldl_max (fun tenant : Text × Int × Int => tenantRatio tenant.2) totals.entries 0
  have most : ∀ {bound : Int}, 0 ≤ bound → (∀ tenant ∈ totals.entries, tenantRatio tenant.2 ≤ bound) →
      totals.entries.foldl (fun most tenant => max most (tenantRatio tenant.2)) 0 ≤ bound :=
    fun first each => foldl_max_le first each
  have least : ∀ {bound : Int}, bound ≤ int64Max →
    (∀ tenant ∈ totals.entries, bound ≤ tenantRatio tenant.2) →
      bound ≤ totals.entries.foldl (fun least tenant => min least (tenantRatio tenant.2)) int64Max :=
    fun first each => foldl_max_le (K := Intᵒᵈ) first each
  rw [spread] at grounded ⊢
  generalize totals.entries.foldl (fun most tenant => max most (tenantRatio tenant.2)) 0 = highest at *
  generalize totals.entries.foldl (fun least tenant => min least (tenantRatio tenant.2))
    int64Max = lowest at *
  unfold SpreadFits InInt64 int64Min
  constructor
  · rintro ⟨-, fits⟩ ⟨starved, listed, same⟩ tenant member
    have low := below starved listed
    have ratio : tenantRatio (-thousandthMax, 1) = -9223372036854775000 := by decide
    have reached := above tenant member
    rw [same, ratio] at low
    unfold int64Max at *
    rw [if_neg (by omega)] at fits
    omega
  · intro fits
    have highest_le : highest ≤ 1000 := most (by decide) fun tenant _ => tenantRatio_le tenant.2
    by_cases starved : ∃ tenant ∈ totals.entries, tenant.2 = (-thousandthMax, 1)
    · have bounded := fits starved
      have highest_small : highest ≤ 807 := most (by decide) fun tenant member => by
        have ratio := bounded tenant member
        omega
      have lowest_ge : -(1000 * thousandthMax) ≤ lowest := least (by decide) fun tenant _ => by
        unfold tenantRatio
        split
        · decide
        · exact le_min (by decide) (permille_least _ _)
      unfold thousandthMax int64Max at *
      split at grounded <;> omega
    · have lowest_ge : 1000 - int64Max ≤ lowest := least (by decide) fun tenant member => by
        by_contra low
        exact starved ⟨tenant, member, (tenantRatio_lowest_iff tenant.2).mp (by omega)⟩
      unfold int64Max at *
      split at grounded <;> omega

/-! The shares. -/

/-- The shares of an allocation with their demand and path, as they are listed. -/
def listedShares (allocation : Allocation) : List ((Text ×ₗ Text) × Int) :=
  allocation.demands.flatMap fun entry => entry.shares.map fun share =>
    (toLex (entry.demand.str, share.path.str), share.granted)

theorem shareTable_eq (allocation : Allocation) : shareTable allocation =
    (listedShares allocation).foldl (fun table item => table.insert item.1 item.2) OrdMap.empty := by
  unfold shareTable listedShares
  rw [List.foldl_flatMap]
  congr 1
  funext table entry
  rw [List.foldl_map]

/-- A table holds nothing but listed shares. -/
theorem shareTable_held {allocation : Allocation} {P : Int → Prop}
    (each : ∀ entry ∈ allocation.demands, ∀ share ∈ entry.shares, P share.granted) (none : P 0)
    (key : Text ×ₗ Text) : P (((shareTable allocation).find? key).getD 0) := by
  cases found : (shareTable allocation).find? key with
  | none => exact none
  | some amount =>
      rw [shareTable_eq] at found
      rcases OrdMap.find?_foldl_insert _ _ _ found with before | ⟨item, member, -, rfl⟩
      · rw [OrdMap.find?_empty] at before
        cases before
      · obtain ⟨entry, listed, inside⟩ := List.mem_flatMap.mp member
        obtain ⟨share, held, rfl⟩ := List.mem_map.mp inside
        exact each entry listed share held

/-- The shares of an allocation of the solver. -/
def Allocation.Planned (allocation : Allocation) : Prop :=
  ∀ entry ∈ allocation.demands, ∀ share ∈ entry.shares, 0 ≤ share.granted ∧ share.granted ≤ int64Max

/-- No share of the incumbent lies so far below the one that is planned that the difference does not fit. -/
def SharesFit (incumbent proposal : Allocation) : Prop :=
  ∀ key ∈ (shareTable incumbent).keys,
    ((shareTable proposal).find? key).getD 0 - ((shareTable incumbent).find? key).getD 0 ≤ int64Max

theorem Allocation.Planned.table {allocation : Allocation} (planned : allocation.Planned)
    (key : Text ×ₗ Text) :
    0 ≤ ((shareTable allocation).find? key).getD 0 ∧
      ((shareTable allocation).find? key).getD 0 ≤ int64Max := by
  have none : (0 : Int) ≤ 0 ∧ (0 : Int) ≤ int64Max := by decide
  exact shareTable_held (P := fun granted => 0 ≤ granted ∧ granted ≤ int64Max) planned none key

/-- A key that the incumbent does not hold is no concern. -/
theorem Allocation.Planned.difference {incumbent proposal : Allocation} (planned : proposal.Planned)
    {key : Text ×ₗ Text} (absent : key ∉ (shareTable incumbent).keys) :
    ((shareTable proposal).find? key).getD 0 - ((shareTable incumbent).find? key).getD 0 ≤ int64Max := by
  have range := planned.table key
  rw [OrdMap.mem_keys_iff, Option.not_isSome_iff_eq_none] at absent
  rw [absent, Option.getD_none]
  omega

section Shares

variable {incumbent proposal : Allocation} (grants : incumbent.Int64Grants) (planned : proposal.Planned)

include grants planned

theorem share_difference_fits_iff (key : Text ×ₗ Text) :
    InInt64 (if ((shareTable proposal).find? key).getD 0 < ((shareTable incumbent).find? key).getD 0 then
        ((shareTable incumbent).find? key).getD 0 - ((shareTable proposal).find? key).getD 0
      else ((shareTable proposal).find? key).getD 0 - ((shareTable incumbent).find? key).getD 0) ↔
      ((shareTable proposal).find? key).getD 0 - ((shareTable incumbent).find? key).getD 0 ≤ int64Max :=
  difference_fits_iff (shareTable_held grants.shares (by decide) key) (planned.table key)

theorem movedResults_fit_iff :
    AllInInt64 (movedResults (shareTable incumbent) (shareTable proposal)) ↔
      SharesFit incumbent proposal := by
  unfold AllInInt64 movedResults SharesFit
  rw [List.forall_mem_map]
  constructor
  · intro fits key held
    exact (share_difference_fits_iff grants planned key).mp
      (fits key ((mem_sortUnique_id _ _).mpr (List.mem_append_left _ held)))
  · intro fits key _
    rw [share_difference_fits_iff grants planned key]
    by_cases held : key ∈ (shareTable incumbent).keys
    · exact fits key held
    · exact planned.difference held

/-- The comparison forms the differences of the shares that differ. -/
theorem changedResults_fit_iff :
    AllInInt64 ((shareChanges incumbent proposal).map ShareChange.moved) ↔
      SharesFit incumbent proposal := by
  rw [← movedResults_fit_iff grants planned]
  unfold AllInInt64 movedResults shareChanges
  rw [List.forall_mem_map, List.forall_mem_map]
  simp only [List.mem_filterMap]
  constructor
  · intro fits key member
    by_cases same : ((shareTable incumbent).find? key).getD 0 = ((shareTable proposal).find? key).getD 0
    · rw [same, if_neg (lt_irrefl _), Int.sub_self]
      decide
    · exact fits ⟨Id.parse (ofLex key).1, _, _⟩ ⟨key, member, if_neg same⟩
  · rintro fits change ⟨key, member, listed⟩
    split at listed
    · cases listed
    · cases listed
      exact fits key member

end Shares

/-! The metrics. -/

theorem mem_scoredEntries {derived : Derivation} {allocation : Allocation}
    {pair : DemandAllocation × DemandDerivation} : pair ∈ scoredEntries derived allocation ↔
      pair.1 ∈ allocation.demands ∧ (expectedDemands derived).find? pair.1.demand = some pair.2 ∧
        pair.2.active = true := by
  unfold scoredEntries
  rw [List.mem_filterMap]
  constructor
  · rintro ⟨entry, listed, found⟩
    split at found
    · cases found
    · rename_i demand known
      split at found
      · rename_i active
        cases found
        exact ⟨listed, known, active⟩
      · cases found
  · rintro ⟨listed, known, active⟩
    refine ⟨pair.1, listed, ?_⟩
    rw [known]
    exact if_pos active

theorem derivedDemand_desired (snapshot : FabricSnapshot) (demand : Demand) :
    (derivedDemand snapshot demand).desired =
      max demand.desiredBandwidth (derivedDemand snapshot demand).floor := by
  obtain ⟨_, _, _, shape⟩ := derivedDemand_shape snapshot demand
  rw [shape]
  rfl

/-- What is wanted of a demand is no less than its floor, and fits. -/
theorem expected_range {snapshot : FabricSnapshot} (accepted : Accepted snapshot) {id : DemandId}
    {demand : DemandDerivation} (known : (expectedDemands (derivation snapshot)).find? id = some demand) :
    0 ≤ demand.floor ∧ demand.floor ≤ demand.desired ∧ demand.desired ≤ int64Max := by
  obtain ⟨source, member, -, rfl⟩ := (expectedDemands_find accepted id demand).mp known
  have range := accepted.demand_range member
  have wide : Limits.maxBandwidth ≤ int64Max := by decide
  have obligation : obligationOf snapshot source.id ≤ int64Max := min_le_left _ _
  have floor := derivedDemand_floor_nonneg accepted member
  rw [derivedDemand_desired]
  rw [derivedDemand_floor] at *
  omega

/-- The number of shares that are used, where the lists are bounded. -/
theorem usedShares_small (derived : Derivation) {allocation : Allocation}
    (few : allocation.demands.length ≤ Limits.maxDemands)
    (narrow : ∀ entry ∈ allocation.demands, entry.shares.length ≤ Limits.maxTotalCandidatePaths) :
    (((scoredEntries derived allocation).flatMap fun pair => usedSharesOf pair.1).length : Int) ≤
      int64Max := by
  have entries : (scoredEntries derived allocation).length ≤ Limits.maxDemands :=
    (List.length_filterMap_le _ _).trans few
  have counted : ((scoredEntries derived allocation).flatMap fun pair => usedSharesOf pair.1).length ≤
      (scoredEntries derived allocation).length * Limits.maxTotalCandidatePaths := by
    have summed := List.sum_le_card_nsmul ((scoredEntries derived allocation).map fun pair =>
        (usedSharesOf pair.1).length) Limits.maxTotalCandidatePaths (by
      intro count member
      obtain ⟨pair, inside, rfl⟩ := List.mem_map.mp member
      exact (List.length_filter_le _ _).trans (narrow pair.1 (mem_scoredEntries.mp inside).1))
    rw [List.length_map] at summed
    rw [List.length_flatMap]
    exact summed
  have product : (scoredEntries derived allocation).length * Limits.maxTotalCandidatePaths ≤
      Limits.maxDemands * Limits.maxTotalCandidatePaths := Nat.mul_le_mul_right _ entries
  have small : ((Limits.maxDemands * Limits.maxTotalCandidatePaths : Nat) : Int) ≤ int64Max := by decide
  omega

theorem displaced_small {snapshot : FabricSnapshot} (accepted : Accepted snapshot) :
    (((derivation snapshot).reservations.filter fun accounting =>
      accounting.displaceable && accounting.active).length : Int) ≤ int64Max := by
  have kept := List.length_filter_le (fun accounting => accounting.displaceable && accounting.active)
    (derivation snapshot).reservations
  have count : (derivation snapshot).reservations.length = snapshot.reservations.reservations.length :=
    List.length_map _
  have bound := accepted.reservation_checks.1
  have small : ((Limits.maxReservations : Nat) : Int) ≤ int64Max := by decide
  omega

/-- The entries and the tenants of an allocation can be measured. -/
structure EntriesFit (derived : Derivation) (allocation : Allocation) : Prop where
  entries : ∀ entry ∈ allocation.demands, ∀ demand,
    (expectedDemands derived).find? entry.demand = some demand →
    demand.active = true → demand.desired - int64Max ≤ entry.granted
  tenants : SpreadFits (tenantTotals (scoredEntries derived allocation))

/-- The shortfall of an entry that is scored fits unless its grant is far below zero. -/
theorem scoredEntries_fit_iff {snapshot : FabricSnapshot} (accepted : Accepted snapshot)
    (allocation : Allocation) :
    AllInInt64 ((scoredEntries (derivation snapshot) allocation).flatMap shortfallResults) ↔
      ∀ entry ∈ allocation.demands, ∀ demand,
        (expectedDemands (derivation snapshot)).find? entry.demand = some demand → demand.active = true →
          demand.desired - int64Max ≤ entry.granted := by
  have each : ∀ pair ∈ scoredEntries (derivation snapshot) allocation,
      AllInInt64 (shortfallResults pair) ↔ pair.2.desired - int64Max ≤ pair.1.granted := fun pair member =>
    shortfallResults_fit_iff (expected_range accepted (mem_scoredEntries.mp member).2.1).2.1
  unfold AllInInt64
  rw [List.forall_mem_flatMap]
  constructor
  · intro fits entry listed demand known active
    have member := mem_scoredEntries.mpr (⟨listed, known, active⟩ : (entry, demand).1 ∈ _ ∧ _)
    exact (each _ member).mp (fits _ member)
  · intro fits pair member
    obtain ⟨listed, known, active⟩ := mem_scoredEntries.mp member
    exact (each pair member).mpr (fits pair.1 listed pair.2 known active)

/-- The saturated product keeps the exposure within the word. -/
theorem exposures_fit {allocation : Allocation}
    (exposed : ∀ resource ∈ allocation.resources, 0 < resource.available → 0 ≤ resource.allocated) :
    AllInInt64 ((allocation.resources.filter fun resource => decide (0 < resource.available)).map
      fun resource =>
        (satMul resource.allocated (permille resource.allocated resource.available)).tdiv 1000) := by
  intro result member
  obtain ⟨resource, inside, rfl⟩ := List.mem_map.mp member
  obtain ⟨listed, positive⟩ := List.mem_filter.mp inside
  have load := exposed resource listed (of_decide_eq_true positive)
  have product := satMul_nonneg load (permille_nonneg load resource.available)
  have bounded : satMul resource.allocated (permille resource.allocated resource.available) ≤ int64Max := by
    rw [satMul_of_nonneg load (permille_nonneg load resource.available)]
    exact min_le_left _ _
  rw [Int.tdiv_eq_ediv_of_nonneg product]
  unfold InInt64 int64Min int64Max at *
  omega

/-- What has to fit when the metrics of an allocation are computed. -/
theorem metricResults_fit_iff {snapshot : FabricSnapshot} (accepted : Accepted snapshot)
    {allocation : Allocation}
    (few : allocation.demands.length ≤ Limits.maxDemands)
    (narrow : ∀ entry ∈ allocation.demands, entry.shares.length ≤ Limits.maxTotalCandidatePaths)
    (exposed : ∀ resource ∈ allocation.resources, 0 < resource.available → 0 ≤ resource.allocated)
    (options : SolveOptions) : AllInInt64 (metricResults (derivation snapshot) allocation options) ↔
      EntriesFit (derivation snapshot) allocation ∧ (options.hasIncumbent = true →
        AllInInt64 (movedResults (shareTable options.incumbent) (shareTable allocation))) := by
  have moved_iff : AllInInt64 (if options.hasIncumbent = true then
      movedResults (shareTable options.incumbent) (shareTable allocation) else []) ↔
      (options.hasIncumbent = true →
        AllInInt64 (movedResults (shareTable options.incumbent) (shareTable allocation))) := by
    by_cases supplied : options.hasIncumbent = true
    · simp [supplied]
    · simp [supplied, AllInInt64]
  have spread_iff :
    AllInInt64 [fairnessSpread (tenantTotals (scoredEntries (derivation snapshot) allocation))] ↔
      SpreadFits (tenantTotals (scoredEntries (derivation snapshot) allocation)) := by
    unfold AllInInt64
    rw [List.forall_mem_singleton]
    exact fairnessSpread_fits_iff _
  have used := countingResults_fit (usedShares_small (derivation snapshot) few narrow)
  have displaced := countingResults_fit (displaced_small accepted)
  unfold metricResults
  dsimp only
  rw [allInInt64_append, allInInt64_append, allInInt64_append, allInInt64_append, allInInt64_append,
    scoredEntries_fit_iff accepted, moved_iff, spread_iff]
  constructor
  · rintro ⟨⟨⟨⟨⟨entries, -⟩, moved⟩, -⟩, -⟩, spread⟩
    exact ⟨⟨entries, spread⟩, moved⟩
  · rintro ⟨⟨entries, spread⟩, moved⟩
    exact ⟨⟨⟨⟨⟨entries, used⟩, moved⟩, displaced⟩, exposures_fit exposed⟩, spread⟩

end TrafficFabric
