import TrafficFabric.Scoring
import TrafficFabric.Verifier

set_option autoImplicit false

/- A score with non-negative weights is a sum that is cut off once, at the bound of the machine. -/
namespace TrafficFabric

/-! Ratios. -/

/-- The largest part whose thousandfold fits. -/
def thousandthMax : Int := 9223372036854775

def FitsThousandfold (part : Int) : Prop := -thousandthMax ≤ part ∧ part ≤ thousandthMax

instance (part : Int) : Decidable (FitsThousandfold part) := inferInstanceAs (Decidable (_ ∧ _))

theorem fitsThousandfold_iff (part : Int) :
    FitsThousandfold part ↔ -9223372036854775 ≤ part ∧ part ≤ 9223372036854775 := Iff.rfl

theorem mulChecked_thousand (part : Int) :
    mulChecked part 1000 = if FitsThousandfold part then some (part * 1000) else none := by
  have upper : int64Max.tdiv 1000 = 9223372036854775 := by decide
  have lower : int64Min.tdiv 1000 = -9223372036854775 := by decide
  have fits_iff := fitsThousandfold_iff part
  unfold mulChecked
  rw [upper, lower, if_neg (by decide : ¬ (1000 : Int) = int64Min),
    if_neg (by decide : ¬ (1000 : Int) = -1),
    if_pos (by decide : (0 : Int) < 1000), if_pos (by decide : (0 : Int) < 1000)]
  by_cases zero : part = 0
  · subst zero
    rfl
  by_cases minus : part = -1
  · subst minus
    rfl
  rw [if_neg (by omega), if_neg minus]
  by_cases positive : 0 < part
  · rw [if_pos positive]
    by_cases fits : part ≤ 9223372036854775
    · rw [if_neg (by omega), if_pos (fits_iff.mpr (by omega))]
    · rw [if_pos (by omega), if_neg (by rw [fits_iff]; omega)]
  · rw [if_neg positive]
    by_cases fits : -9223372036854775 ≤ part
    · rw [if_neg (by omega), if_pos (fits_iff.mpr (by omega))]
    · rw [if_pos (by omega), if_neg (by rw [fits_iff]; omega)]

theorem permille_eq {whole : Int} (positive : 0 < whole) (part : Int) :
    permille part whole =
      if FitsThousandfold part then (1000 * part).tdiv whole else if 0 < part then 1000 else 0 := by
  unfold permille
  rw [if_neg (by omega), mulChecked_thousand, Int.mul_comm]
  by_cases fits : FitsThousandfold part
  · rw [if_pos fits, if_pos fits]
  · rw [if_neg fits, if_neg fits]

theorem permille_exact {whole part : Int} (nonneg : 0 ≤ part) (fits : part ≤ thousandthMax) :
    permille part whole = if whole ≤ 0 then 0 else 1000 * part / whole := by
  by_cases positive : 0 < whole
  · rw [permille_eq positive, if_pos (by unfold FitsThousandfold thousandthMax at *; omega),
      if_neg (by omega)]
    exact Int.tdiv_eq_ediv_of_nonneg (by omega)
  · rw [if_pos (by omega)]
    unfold permille
    rw [if_pos (by omega)]

theorem permille_nonneg {part : Int} (nonneg : 0 ≤ part) (whole : Int) : 0 ≤ permille part whole := by
  by_cases positive : 0 < whole
  · rw [permille_eq positive]
    split
    · exact Int.tdiv_nonneg (by omega) (by omega)
    · split <;> decide
  · unfold permille
    rw [if_pos (by omega)]

theorem permille_nonpos {part : Int} (nonpos : part ≤ 0) (whole : Int) : permille part whole ≤ 0 := by
  by_cases positive : 0 < whole
  · rw [permille_eq positive]
    split
    · have gain : 0 ≤ (1000 * -part).tdiv whole := Int.tdiv_nonneg (by omega) (by omega)
      have loss : 1000 * part = -(1000 * -part) := by omega
      rw [loss, Int.neg_tdiv]
      omega
    · rw [if_neg (by omega)]
  · unfold permille
    rw [if_pos (by omega)]

/-! Saturating arithmetic. -/

theorem satAdd_zero (total : Int) : satAdd total 0 = total := by
  unfold satAdd
  rw [addChecked_of_nonneg (le_refl 0), if_neg (by omega)]
  exact Int.add_zero total

/-- Whatever is added, a saturating sum stays within the machine type. -/
theorem satAdd_inInt64 {total : Int} (inside : InInt64 total) (amount : Int) :
    InInt64 (satAdd total amount) := by
  unfold InInt64 int64Min int64Max at *
  unfold satAdd addChecked int64Min int64Max
  by_cases above : 0 < amount ∧ 9223372036854775807 - amount < total
  · rw [if_pos above]
    dsimp only
    rw [if_pos above.1]
    omega
  by_cases below : amount < 0 ∧ total < -9223372036854775808 - amount
  · rw [if_neg above, if_pos below]
    dsimp only
    rw [if_neg (by omega)]
    omega
  · rw [if_neg above, if_neg below]
    dsimp only
    omega

theorem foldl_satAdd_inInt64 {α : Type} (amount : α → Int) (items : List α) {start : Int}
    (inside : InInt64 start) :
    InInt64 (items.foldl (fun total item => satAdd total (amount item)) start) := by
  induction items generalizing start with
  | nil => exact inside
  | cons item rest ih => exact ih (satAdd_inInt64 inside (amount item))

theorem satMul_of_nonneg {a b : Int} (left : 0 ≤ a) (right : 0 ≤ b) :
    satMul a b = min int64Max (a * b) := by
  unfold satMul
  by_cases fits : a * b ≤ int64Max
  · rw [mulChecked_of_nonneg left right fits, min_eq_right fits]
  · have bounded : 0 ≤ int64Max := by decide
    have positive : 0 < a ∧ 0 < b := by
      constructor
      · by_contra none
        have zero : a = 0 := by omega
        subst zero
        omega
      · by_contra none
        have zero : b = 0 := by omega
        subst zero
        omega
    have exceeds : int64Max.tdiv b < a := by
      rw [Int.tdiv_eq_ediv_of_nonneg bounded, Int.ediv_lt_iff_lt_mul positive.2]
      omega
    have product : mulChecked a b = none := by
      unfold mulChecked
      rw [if_neg (by omega), if_neg (by omega), if_neg (by omega), if_pos positive.1, if_pos positive.2,
        if_pos exceeds]
    rw [product, min_eq_left (by omega)]
    have signs : ¬ ((a < 0) ≠ (b < 0)) := by
      have first : ¬ a < 0 := by omega
      have second : ¬ b < 0 := by omega
      simp [first, second]
    exact if_neg signs

theorem satMul_nonneg {a b : Int} (left : 0 ≤ a) (right : 0 ≤ b) : 0 ≤ satMul a b := by
  rw [satMul_of_nonneg left right]
  exact le_min (by decide) (Int.mul_nonneg left right)

/-- Two values below zero have a product above it. -/
theorem satMul_nonneg_of_nonpos {a b : Int} (left : a ≤ 0) (right : b ≤ 0) : 0 ≤ satMul a b := by
  have product : ∀ {value : Int}, mulChecked a b = some value → value = a * b := by
    intro value checked
    unfold mulChecked at checked
    grind
  unfold satMul
  cases checked : mulChecked a b with
  | some value =>
      dsimp only
      rw [product checked]
      exact Int.mul_nonneg_of_nonpos_of_nonpos left right
  | none =>
      -- A product that does not fit has two factors below zero.
      have below : a < 0 ∧ b < 0 := by
        unfold mulChecked at checked
        split at checked
        · cases checked
        · omega
      dsimp only
      rw [if_neg (by simp [below.1, below.2])]
      decide

theorem satMul_zero (a : Int) : satMul a 0 = 0 := by
  simp [satMul, mulChecked]

theorem zero_satMul (b : Int) : satMul 0 b = 0 := by
  simp [satMul, mulChecked]

/-- What a list of terms weighs. -/
def weighed (terms : List ObjectiveWeight) (value : ObjectiveTerm → Int) : Int :=
  (terms.map fun term => satMul term.weight (value term.term)).sum

theorem weighed_nonneg {terms : List ObjectiveWeight} {value : ObjectiveTerm → Int}
    (weights : ∀ term ∈ terms, 0 ≤ term.weight) (values : ∀ term, 0 ≤ value term) :
    0 ≤ weighed terms value :=
  sum_map_nonneg _ _ fun term member => satMul_nonneg (weights term member) (values term.term)

theorem weighed_add {terms : List ObjectiveWeight} {value first second : ObjectiveTerm → Int}
    (parts : ∀ term ∈ terms, satMul term.weight (value term.term) =
      satMul term.weight (first term.term) + satMul term.weight (second term.term)) :
    weighed terms value = weighed terms first + weighed terms second := by
  unfold weighed
  induction terms with
  | nil => rfl
  | cons term rest ih =>
      rw [List.map_cons, List.map_cons, List.map_cons, List.sum_cons, List.sum_cons, List.sum_cons,
        parts term List.mem_cons_self, ih fun other member =>
          parts other (List.mem_cons_of_mem term member)]
      omega

theorem scoreFromMetrics_eq {terms : List ObjectiveWeight} {metrics : Metrics}
    (weights : ∀ term ∈ terms, 0 ≤ term.weight) (values : ∀ term, 0 ≤ rawValue metrics term) :
    (scoreFromMetrics terms metrics).1 = min int64Max (weighed terms (rawValue metrics)) := by
  have summed :=
    foldl_satAdd (fun term : ObjectiveWeight => satMul term.weight (rawValue metrics term.term)) terms 0
    (fun term member => satMul_nonneg (weights term member) (values term.term)) (by decide)
  rw [Int.zero_add] at summed
  unfold scoreFromMetrics
  dsimp only
  rw [List.foldl_map]
  exact summed

/-! Shortfalls. -/

/-- The sums over the entries, in the order in which the source forms them. -/
theorem floorShortfall_eq (scored : List (DemandAllocation × DemandDerivation)) :
    floorShortfall scored =
      min int64Max ((scored.map fun pair => max 0 (pair.2.floor - pair.1.granted)).sum) := by
  have summed := foldl_satAdd (fun pair : DemandAllocation × DemandDerivation =>
    max 0 (pair.2.floor - pair.1.granted)) scored 0 (fun _ _ => le_max_left _ _) (by decide)
  rw [Int.zero_add] at summed
  rw [← summed]
  unfold floorShortfall
  congr 1
  funext total pair
  by_cases short : pair.1.granted < pair.2.floor
  · rw [if_pos short, max_eq_right (by omega)]
  · rw [if_neg short, max_eq_left (by omega), satAdd_zero]

theorem desiredShortfall_eq (scored : List (DemandAllocation × DemandDerivation)) :
    desiredShortfall scored =
      min int64Max ((scored.map fun pair => max 0 (pair.2.desired - pair.1.granted)).sum) := by
  have summed := foldl_satAdd (fun pair : DemandAllocation × DemandDerivation =>
    max 0 (pair.2.desired - pair.1.granted)) scored 0 (fun _ _ => le_max_left _ _) (by decide)
  rw [Int.zero_add] at summed
  rw [← summed]
  unfold desiredShortfall
  congr 1
  funext total pair
  by_cases short : pair.1.granted < pair.2.desired
  · rw [if_pos short, max_eq_right (by omega)]
  · rw [if_neg short, max_eq_left (by omega), satAdd_zero]

/-- The weight of a demand's priority is positive. -/
theorem priority_weight (demand : DemandDerivation) : 0 < (256 - demand.priority.toNat : Int) := by
  have bound := demand.priority.toNat_lt
  omega

theorem weightedShortfall_eq (scored : List (DemandAllocation × DemandDerivation)) :
    weightedShortfall scored = min int64Max ((scored.map fun pair =>
      satMul (max 0 (pair.2.desired - pair.1.granted)) (256 - pair.2.priority.toNat)).sum) := by
  have summed := foldl_satAdd (fun pair : DemandAllocation × DemandDerivation =>
    satMul (max 0 (pair.2.desired - pair.1.granted)) (256 - pair.2.priority.toNat)) scored 0
    (fun pair _ => satMul_nonneg (le_max_left _ _) (priority_weight pair.2).le) (by decide)
  rw [Int.zero_add] at summed
  rw [← summed]
  unfold weightedShortfall
  congr 1
  funext total pair
  by_cases short : pair.1.granted < pair.2.desired
  · rw [if_pos short, max_eq_right (by omega)]
  · rw [if_neg short, max_eq_left (by omega), zero_satMul, satAdd_zero]

/-! No metric is negative. -/

theorem foldl_satAdd_nonneg {α : Type} (amount : α → Int) (items : List α) {start : Int}
    (grounded : 0 ≤ start)
    (nonneg : ∀ item ∈ items, 0 ≤ amount item) (bounded : start ≤ int64Max) :
    0 ≤ items.foldl (fun total item => satAdd total (amount item)) start := by
  have summed := sum_map_nonneg amount items nonneg
  rw [foldl_satAdd amount items start nonneg bounded]
  exact le_min (by decide) (by omega)

/-- A resource is exposed by what it carries; the ratio has the sign of the load. -/
theorem exposed_nonneg (allocated available : Int) :
    0 ≤ (satMul allocated (permille allocated available)).tdiv 1000 := by
  apply Int.tdiv_nonneg _ (by decide)
  rcases Int.le_total 0 allocated with nonneg | nonpos
  · exact satMul_nonneg nonneg (permille_nonneg nonneg available)
  · exact satMul_nonneg_of_nonpos nonpos (permille_nonpos nonpos available)

/-- What a resource adds to the congestion. -/
def exposure (resource : ResourceUtilization) : Int :=
  if 0 < resource.available then
    (satMul resource.allocated (permille resource.allocated resource.available)).tdiv 1000
  else 0

theorem exposure_nonneg (resource : ResourceUtilization) : 0 ≤ exposure resource := by
  unfold exposure
  split
  · exact exposed_nonneg _ _
  · exact le_refl 0

theorem congestion_eq (resources : List ResourceUtilization) :
    congestion resources = min int64Max ((resources.map exposure).sum) := by
  have summed := foldl_satAdd exposure resources 0 (fun resource _ => exposure_nonneg resource) (by decide)
  rw [Int.zero_add] at summed
  rw [← summed]
  unfold congestion
  congr 1
  funext total resource
  unfold exposure
  by_cases positive : 0 < resource.available
  · rw [if_pos positive, if_pos positive]
  · rw [if_neg positive, if_neg positive, satAdd_zero]

theorem congestion_nonneg (resources : List ResourceUtilization) : 0 ≤ congestion resources := by
  rw [congestion_eq]
  exact le_min (by decide) (sum_map_nonneg _ _ fun resource _ => exposure_nonneg resource)

theorem congestion_eq_zero_iff (resources : List ResourceUtilization) :
    congestion resources = 0 ↔ ∀ resource ∈ resources, exposure resource = 0 := by
  have wide : (0 : Int) < int64Max := by decide
  have nonneg := sum_map_nonneg exposure resources fun resource _ => exposure_nonneg resource
  rw [congestion_eq, ← sum_map_eq_zero_iff fun resource _ => exposure_nonneg resource]
  omega

theorem fairnessSpread_nonneg (totals : OrdMap Text (Int × Int)) : 0 ≤ fairnessSpread totals := by
  unfold fairnessSpread
  by_cases empty : totals.entries.isEmpty = true
  · rw [if_pos empty]
  rw [if_neg empty]
  dsimp only
  obtain ⟨entry, rest, listed⟩ : ∃ entry rest, totals.entries = entry :: rest := by
    cases entries : totals.entries with
    | nil =>
        rw [entries] at empty
        exact absurd rfl empty
    | cons entry rest => exact ⟨entry, rest, rfl⟩
  have member : entry ∈ totals.entries := by
    rw [listed]
    exact List.mem_cons_self
  have lowest :=
    (foldl_min_le (fun entry : Text × Int × Int => tenantRatio entry.2) totals.entries int64Max).2 _ member
  obtain ⟨grounded, above⟩ :=
    le_foldl_max (fun entry : Text × Int × Int => tenantRatio entry.2) totals.entries 0
  have highest := above _ member
  simp only [List.foldl_map]
  split
  · omega
  · omega

theorem Accepted.path_cost {snapshot : FabricSnapshot} (accepted : Accepted snapshot) {path : PathFacts}
    (member : path ∈ planningPaths snapshot) : 0 ≤ path.cost ∧ path.cost ≤ Limits.maxCost := by
  obtain ⟨candidate, listed, rfl⟩ := List.mem_map.mp member
  have checked := accepted.path_checks.1 candidate listed
  simp only [validatePath, check_bind_eq_ok, require_eq_ok, inRange_iff] at checked
  obtain ⟨-, -, -, -, -, -, -, -, -, -, cost, -⟩ := checked
  exact cost

theorem pathCost_nonneg {snapshot : FabricSnapshot} (accepted : Accepted snapshot)
    (scored : List (DemandAllocation × DemandDerivation)) : 0 ≤ pathCost snapshot scored := by
  have folded : pathCost snapshot scored = (scored.flatMap fun pair => usedSharesOf pair.1).foldl
      (fun total share => satAdd total
        ((findPath snapshot share.path).elim 0 fun path => satMul share.granted path.cost)) 0 := by
    unfold pathCost
    congr 1
    funext total share
    cases findPath snapshot share.path with
    | none => exact (satAdd_zero total).symm
    | some path => rfl
  rw [folded]
  apply foldl_satAdd_nonneg _ _ (le_refl 0) _ (by decide)
  intro share member
  obtain ⟨pair, -, used⟩ := List.mem_flatMap.mp member
  have positive : 0 < share.granted := of_decide_eq_true (List.mem_filter.mp used).2
  cases found : findPath snapshot share.path with
  | none => exact le_refl 0
  | some path => exact satMul_nonneg positive.le (accepted.path_cost (findPath_mem found).1).1

theorem movedBetween_nonneg (before after : OrdMap (Text ×ₗ Text) Int) : 0 ≤ movedBetween before after := by
  apply foldl_satAdd_nonneg (fun key => if (after.find? key).getD 0 < (before.find? key).getD 0 then
    (before.find? key).getD 0 - (after.find? key).getD 0
    else (after.find? key).getD 0 - (before.find? key).getD 0) _ (le_refl 0) _ (by decide)
  intro key _
  split <;> omega

/-- No metric is negative, whatever the allocation and the incumbent claim. -/
theorem rawValue_nonneg {snapshot : FabricSnapshot} (accepted : Accepted snapshot) (derived : Derivation)
    (allocation : Allocation) (options : SolveOptions) (term : ObjectiveTerm) :
    0 ≤ rawValue (computeMetrics snapshot derived allocation options) term := by
  have clamped : ∀ {α : Type} (amount : α → Int) (items : List α), (∀ item ∈ items, 0 ≤ amount item) →
      0 ≤ min int64Max ((items.map amount).sum) :=
    fun amount items nonneg => le_min (by decide) (sum_map_nonneg amount items nonneg)
  cases term with
  | satisfyMinimums =>
      change 0 ≤ floorShortfall _
      rw [floorShortfall_eq]
      exact clamped _ _ fun _ _ => le_max_left _ _
  | minimizeMaxUtilization => exact (le_foldl_max ResourceUtilization.utilizationPermille _ 0).1
  | minimizeCongestionExposure => exact congestion_nonneg _
  | minimizeTotalPathCost => exact pathCost_nonneg accepted _
  | minimizeChurn =>
      change 0 ≤ if options.hasIncumbent = true then
        movedBetween (shareTable options.incumbent) (shareTable allocation) else 0
      split
      · exact movedBetween_nonneg _ _
      · exact le_refl 0
  | preserveReservations => exact Int.natCast_nonneg _
  | preservePriority =>
      change 0 ≤ weightedShortfall _
      rw [weightedShortfall_eq]
      exact clamped _ _ fun pair _ => satMul_nonneg (le_max_left _ _) (priority_weight pair.2).le
  | maximizeDesiredBandwidth =>
      change 0 ≤ desiredShortfall _
      rw [desiredShortfall_eq]
      exact clamped _ _ fun _ _ => le_max_left _ _
  | fairnessAcrossGroups => exact fairnessSpread_nonneg _
  | minimizeFailureDomainConcentration =>
      exact (le_foldl_max (fun entry : Text × Int => entry.2) (domainLoad snapshot allocation).entries 0).1
  | minimizePathCount => exact Int.natCast_nonneg _

/-- The score of an allocation, where no weight is negative. -/
theorem scoreAllocation_eq {snapshot : FabricSnapshot} (accepted : Accepted snapshot)
    (weights : ∀ term ∈ snapshot.objective.terms, 0 ≤ term.weight) {derived : Derivation}
    (derives : derive snapshot = .ok derived) (allocation : Allocation) :
    (scoreAllocation snapshot allocation).1 = min int64Max (weighed snapshot.objective.terms
      (rawValue (computeMetrics snapshot derived allocation {}))) := by
  unfold scoreAllocation
  rw [derives]
  exact scoreFromMetrics_eq weights (rawValue_nonneg accepted derived allocation {})

end TrafficFabric
