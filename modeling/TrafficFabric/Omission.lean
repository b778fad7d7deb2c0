import Mathlib.Algebra.BigOperators.Group.Finset.Piecewise
import TrafficFabric.ScoreSums
import TrafficFabric.SolverOutcomes

set_option autoImplicit false

/- Entries that are left out of an allocation. The shortfall and fairness metrics run over the entries, so a
demand that is not listed falls short of nothing. -/
namespace TrafficFabric

namespace Allocation

/-- The allocation without the entry of the demand. -/
def without (allocation : Allocation) (demand : DemandId) : Allocation :=
  { allocation with demands := allocation.demands.filter fun entry => decide (entry.demand ≠ demand) }

end Allocation

/-- The entry with nothing granted. -/
def DemandAllocation.unserved (entry : DemandAllocation) : DemandAllocation :=
  { entry with granted := 0, shares := [] }

/-- The allocation that lists the demand and grants it nothing. -/
def Allocation.unserving (allocation : Allocation) (demand : DemandId) : Allocation :=
  { allocation with demands := allocation.demands.map fun entry =>
      if entry.demand = demand then entry.unserved else entry }

/-- Leaving the entry out scores no better than granting nothing. -/
def OmissionNeverHelps (snapshot : FabricSnapshot) (allocation : Allocation) (demand : DemandId) : Prop :=
  (scoreAllocation snapshot (allocation.unserving demand)).1 ≤
    (scoreAllocation snapshot (allocation.without demand)).1

/-- Both allocations, around the one entry of the demand. -/
theorem split_at_entry {allocation : Allocation} {entry : DemandAllocation}
    (distinct : (allocation.demands.map DemandAllocation.demand).Nodup)
    (listed : entry ∈ allocation.demands) :
    ∃ before after, (allocation.without entry.demand).demands = before ++ after ∧
      (allocation.unserving entry.demand).demands = before ++ entry.unserved :: after := by
  obtain ⟨before, after, split⟩ := List.append_of_mem listed
  have others : ∀ other ∈ before ++ after, other.demand ≠ entry.demand := by
    intro other member same
    rw [split, List.map_append, List.map_cons] at distinct
    have apart := (List.nodup_middle.mp distinct)
    rw [List.nodup_cons] at apart
    apply apart.1
    rw [← List.map_append, ← same]
    exact List.mem_map_of_mem member
  have first : ∀ other ∈ before, other.demand ≠ entry.demand := fun other member =>
    others other (List.mem_append_left _ member)
  have second : ∀ other ∈ after, other.demand ≠ entry.demand := fun other member =>
    others other (List.mem_append_right _ member)
  refine ⟨before, after, ?_, ?_⟩
  · unfold Allocation.without
    dsimp only
    rw [split, List.filter_append, List.filter_cons, if_neg (by simp), List.filter_eq_self.mpr,
      List.filter_eq_self.mpr]
    · intro other member
      exact decide_eq_true (second other member)
    · intro other member
      exact decide_eq_true (first other member)
  · have same : ∀ entries : List DemandAllocation, (∀ other ∈ entries, other.demand ≠ entry.demand) →
        (entries.map fun other => if other.demand = entry.demand then other.unserved
          else other) = entries := by
      intro entries apart
      conv_rhs => rw [← List.map_id entries]
      apply List.map_congr_left
      intro other member
      rw [if_neg (apart other member)]
      rfl
    unfold Allocation.unserving
    dsimp only
    rw [split, List.map_append, List.map_cons, same before first, same after second, if_pos rfl]

/-! What the listed entry adds. -/

/-- By how much a demand that is granted the amount falls short, as the term counts it. -/
def shortfall : ObjectiveTerm → Int → DemandDerivation → Int
  | .satisfyMinimums, granted, demand => max 0 (demand.floor - granted)
  | .maximizeDesiredBandwidth, granted, demand => max 0 (demand.desired - granted)
  | .preservePriority, granted, demand =>
      satMul (max 0 (demand.desired - granted)) (256 - demand.priority.toNat)
  | _, _, _ => 0

def shortfallTerms : Finset ObjectiveTerm :=
  {.satisfyMinimums, .maximizeDesiredBandwidth, .preservePriority}

/-- What the entries fall short of together. -/
def shortfallSum (term : ObjectiveTerm) (others : List (DemandAllocation × DemandDerivation)) : Int :=
  (others.map fun pair => shortfall term pair.1.granted pair.2).sum

/-- What the tenants are granted and desire, with the demand as well, granted nothing. -/
def withUnserved (totals : OrdMap Text (Int × Int)) (demand : DemandDerivation) : OrdMap Text (Int × Int) :=
  let before := (totals.find? demand.tenant.str).getD (0, 0)
  totals.insert demand.tenant.str (before.1, satAdd before.2 demand.desired)

/-- What a term counts with the demand among the others, where it counts shortfalls or the spread. -/
def unservedValue (others : List (DemandAllocation × DemandDerivation)) (demand : DemandDerivation)
    (value : ObjectiveTerm → Int) (term : ObjectiveTerm) : Int :=
  if term ∈ shortfallTerms then min int64Max (shortfallSum term others + shortfall term 0 demand)
  else if term = .fairnessAcrossGroups then fairnessSpread (withUnserved (tenantTotals others) demand)
  else value term

/-- What the metrics see of one entry. -/
def scoredEntry (derived : Derivation) (entry : DemandAllocation) :
    Option (DemandAllocation × DemandDerivation) :=
  match (expectedDemands derived).find? entry.demand with
  | none => none
  | some demand => if demand.active then some (entry, demand) else none

theorem scoredEntries_eq (derived : Derivation) (allocation : Allocation) :
    scoredEntries derived allocation = allocation.demands.filterMap (scoredEntry derived) := rfl

section Entry

variable {derived : Derivation} {left listing : Allocation}
variable {before after : List DemandAllocation} {entry : DemandAllocation}
variable (without : left.demands = before ++ after)
variable (listed : listing.demands = before ++ entry.unserved :: after)

include without listed

theorem scoredEntries_ignored
    (ignored : ∀ demand, (expectedDemands derived).find? entry.demand = some demand →
      demand.active = false) :
    scoredEntries derived listing = scoredEntries derived left := by
  have unseen : scoredEntry derived entry.unserved = none := by
    change (match (expectedDemands derived).find? entry.demand with
      | none => none
      | some demand => if demand.active then some (entry.unserved, demand) else none) = none
    cases found : (expectedDemands derived).find? entry.demand with
    | none => rfl
    | some demand =>
        dsimp only
        rw [ignored demand found]
        rfl
  rw [scoredEntries_eq, scoredEntries_eq, without, listed, List.filterMap_append, List.filterMap_append,
    List.filterMap_cons_none unseen]

theorem scoredEntries_unserved {demand : DemandDerivation}
    (known : (expectedDemands derived).find? entry.demand = some demand) (active : demand.active = true) :
    ∃ first second, scoredEntries derived left = first ++ second ∧
      scoredEntries derived listing = first ++ (entry.unserved, demand) :: second := by
  have seen : scoredEntry derived entry.unserved = some (entry.unserved, demand) := by
    change (match (expectedDemands derived).find? entry.demand with
      | none => none
      | some demand => if demand.active then some (entry.unserved, demand) else none) = _
    rw [known]
    exact if_pos active
  rw [scoredEntries_eq, scoredEntries_eq, without, listed, List.filterMap_append, List.filterMap_append,
    List.filterMap_cons_some seen]
  exact ⟨_, _, rfl, rfl⟩

/-- The entry has no shares, so no domain is loaded by it. -/
theorem domainLoad_unserved (snapshot : FabricSnapshot) :
    domainLoad snapshot listing = domainLoad snapshot left := by
  unfold domainLoad
  rw [without, listed, List.flatMap_append, List.flatMap_append, List.flatMap_cons]
  rfl

end Entry

section Sums

variable (first second : List (DemandAllocation × DemandDerivation)) (entry : DemandAllocation)
variable (demand : DemandDerivation)

/-- The raw values of the shortfall terms are the sums, cut at the int64 maximum. -/
theorem rawValue_shortfall (snapshot : FabricSnapshot) (derived : Derivation) (allocation : Allocation)
    {term : ObjectiveTerm} (listed : term ∈ shortfallTerms) :
    rawValue (computeMetrics snapshot derived allocation {}) term =
      min int64Max (shortfallSum term (scoredEntries derived allocation)) := by
  simp only [shortfallTerms, Finset.mem_insert, Finset.mem_singleton] at listed
  rcases listed with rfl | rfl | rfl
  · exact floorShortfall_eq _
  · exact desiredShortfall_eq _
  · exact weightedShortfall_eq _

theorem shortfallSum_unserved (term : ObjectiveTerm) :
    shortfallSum term (first ++ (entry.unserved, demand) :: second) =
      shortfallSum term (first ++ second) + shortfall term 0 demand := by
  unfold shortfallSum
  rw [List.map_append, List.map_append, List.map_cons, List.sum_append, List.sum_append, List.sum_cons]
  change _ + (shortfall term 0 demand + _) = _
  omega

/-- Without shares there is nothing to count. -/
theorem usedShares_unserved : ((first ++ (entry.unserved, demand) :: second).flatMap fun pair =>
    usedSharesOf pair.1) = (first ++ second).flatMap fun pair => usedSharesOf pair.1 := by
  rw [List.flatMap_append, List.flatMap_append, List.flatMap_cons]
  rfl

/-- Amounts that are not negative may be added in any order. -/
theorem satAdd_right_comm (total : Int) {amount other : Int} (nonneg : 0 ≤ amount)
    (otherNonneg : 0 ≤ other) :
    satAdd (satAdd total amount) other = satAdd (satAdd total other) amount := by
  have added : ∀ sum part : Int, 0 ≤ part →
      satAdd sum part = if int64Max < sum + part ∧ 0 < part then int64Max else sum + part := by
    intro sum part positive
    unfold satAdd
    rw [addChecked_of_nonneg positive]
    by_cases exceeds : int64Max < sum + part ∧ 0 < part
    · rw [if_pos exceeds, if_pos exceeds]
      dsimp only
      rw [if_pos exceeds.2]
    · rw [if_neg exceeds, if_neg exceeds]
  rw [added _ _ nonneg, added _ _ otherNonneg, added _ _ nonneg, added _ _ otherNonneg]
  split <;> split <;> split <;> split <;> omega

/-- The totals with one more entry. -/
def addEntry (totals : OrdMap Text (Int × Int)) (pair : DemandAllocation × DemandDerivation) :
    OrdMap Text (Int × Int) :=
  let before := (totals.find? pair.2.tenant.str).getD (0, 0)
  totals.insert pair.2.tenant.str (satAdd before.1 pair.1.granted, satAdd before.2 pair.2.desired)

variable {demand} in
/-- The unserved demand may be counted last. -/
theorem withUnserved_addEntry (wanted : 0 ≤ demand.desired) (totals : OrdMap Text (Int × Int))
    {pair : DemandAllocation × DemandDerivation} (nonneg : 0 ≤ pair.2.desired) :
    addEntry (withUnserved totals demand) pair = withUnserved (addEntry totals pair) demand := by
  apply OrdMap.ext_find?
  intro tenant
  unfold addEntry withUnserved
  dsimp only
  by_cases same : demand.tenant.str = pair.2.tenant.str
  · rw [same]
    simp only [OrdMap.find?_insert, if_true, Option.getD_some]
    by_cases own : tenant = pair.2.tenant.str
    · rw [if_pos own, if_pos own, satAdd_right_comm _ wanted nonneg]
    · simp only [if_neg own]
  · simp only [OrdMap.find?_insert, if_neg same, if_neg (Ne.symm same)]
    by_cases own : tenant = pair.2.tenant.str
    · rw [if_pos own, if_neg fun mine => same (mine.symm.trans own), if_pos own]
    · by_cases mine : tenant = demand.tenant.str
      · simp only [if_neg own, if_pos mine]
      · simp only [if_neg own, if_neg mine]

theorem tenantTotals_unserved (wanted : 0 ≤ demand.desired) (later : ∀ pair ∈ second, 0 ≤ pair.2.desired) :
    tenantTotals (first ++ (entry.unserved, demand) :: second) =
      withUnserved (tenantTotals (first ++ second)) demand := by
  have folded : ∀ pairs, tenantTotals pairs = pairs.foldl addEntry OrdMap.empty := fun _ => rfl
  have added : ∀ totals, addEntry totals (entry.unserved, demand) = withUnserved totals demand := by
    intro totals
    unfold addEntry withUnserved
    dsimp only
    rw [show entry.unserved.granted = 0 from rfl, satAdd_zero]
  have moved : ∀ (pairs : List (DemandAllocation × DemandDerivation)) (totals : OrdMap Text (Int × Int)),
      (∀ pair ∈ pairs, 0 ≤ pair.2.desired) →
      pairs.foldl addEntry (withUnserved totals demand) =
        withUnserved (pairs.foldl addEntry totals) demand := by
    intro pairs
    induction pairs with
    | nil => exact fun _ _ => rfl
    | cons pair rest ih =>
        intro totals nonneg
        obtain ⟨own, others⟩ := List.forall_mem_cons.mp nonneg
        rw [List.foldl_cons, List.foldl_cons, withUnserved_addEntry wanted totals own, ih _ others]
  rw [folded, folded, List.foldl_append, List.foldl_append, List.foldl_cons, added, moved second _ later]

end Sums

/-- What a demand desires is not negative. -/
theorem desired_nonneg {snapshot : FabricSnapshot} (accepted : Accepted snapshot) {id : DemandId}
    {demand : DemandDerivation} (known : (expectedDemands (derivation snapshot)).find? id = some demand) :
    0 ≤ demand.desired := by
  obtain ⟨source, member, -, rfl⟩ := (expectedDemands_find accepted id demand).mp known
  have range := accepted.demand_range member
  have wanted : source.desiredBandwidth ≤ (derivedDemand snapshot source).desired := by
    obtain ⟨_, _, _, shape⟩ := derivedDemand_shape snapshot source
    rw [shape]
    exact le_max_left _ _
  omega

theorem scoredEntries_desired {snapshot : FabricSnapshot} (accepted : Accepted snapshot)
    (allocation : Allocation)
    {pair : DemandAllocation × DemandDerivation}
    (counted : pair ∈ scoredEntries (derivation snapshot) allocation) :
    0 ≤ pair.2.desired := by
  rw [scoredEntries_eq] at counted
  obtain ⟨entry, -, found⟩ := List.mem_filterMap.mp counted
  unfold scoredEntry at found
  split at found
  · cases found
  · rename_i demand known
    split at found
    · rw [← Option.some.inj found]
      exact desired_nonneg accepted known
    · cases found

/-- What changes in the metrics when the entry of an active demand is listed. -/
theorem rawValue_unserved {snapshot : FabricSnapshot} (accepted : Accepted snapshot)
    {left listing : Allocation}
    {before after : List DemandAllocation} {entry : DemandAllocation} {demand : DemandDerivation}
    (resources : listing.resources = left.resources) (without : left.demands = before ++ after)
    (listed : listing.demands = before ++ entry.unserved :: after)
    (known : (expectedDemands (derivation snapshot)).find? entry.demand = some demand)
    (active : demand.active = true) (term : ObjectiveTerm) :
    rawValue (computeMetrics snapshot (derivation snapshot) listing {}) term =
      unservedValue (scoredEntries (derivation snapshot) left) demand
        (rawValue (computeMetrics snapshot (derivation snapshot) left {})) term := by
  obtain ⟨first, second, apart, whole⟩ := scoredEntries_unserved without listed known active
  have used := usedShares_unserved first second entry demand
  unfold unservedValue
  by_cases short : term ∈ shortfallTerms
  · rw [if_pos short, rawValue_shortfall _ _ _ short, whole, apart, shortfallSum_unserved]
  rw [if_neg short]
  by_cases fair : term = .fairnessAcrossGroups
  · subst fair
    rw [if_pos rfl]
    change fairnessSpread (tenantTotals (scoredEntries (derivation snapshot) listing)) = _
    rw [whole, apart, tenantTotals_unserved first second entry demand (desired_nonneg accepted known)]
    intro pair member
    apply scoredEntries_desired accepted left
    rw [apart]
    exact List.mem_append_right _ member
  rw [if_neg fair]
  cases term with
  | satisfyMinimums | maximizeDesiredBandwidth | preservePriority => exact absurd (by decide) short
  | fairnessAcrossGroups => exact absurd rfl fair
  | minimizeMaxUtilization =>
      change listing.resources.foldl _ 0 = left.resources.foldl _ 0
      rw [resources]
  | minimizeCongestionExposure =>
      change congestion listing.resources = congestion left.resources
      rw [resources]
  | minimizeTotalPathCost =>
      change pathCost snapshot (scoredEntries _ listing) = pathCost snapshot (scoredEntries _ left)
      unfold pathCost
      rw [whole, apart, used]
  | minimizeChurn | preserveReservations => rfl
  | minimizeFailureDomainConcentration =>
      change (domainLoad snapshot listing).entries.foldl _ 0 = (domainLoad snapshot left).entries.foldl _ 0
      rw [domainLoad_unserved without listed]
  | minimizePathCount =>
      change (((scoredEntries _ listing).flatMap fun pair => usedSharesOf pair.1).length : Int) =
        ((scoredEntries _ left).flatMap fun pair => usedSharesOf pair.1).length
      rw [whole, apart, used]

/-! The terms of a profile. -/

theorem validateTerms_distinct {seen : List ObjectiveTerm} {terms : List ObjectiveWeight}
    (valid : validateTerms seen terms = .ok ()) :
    (terms.map ObjectiveWeight.term).Nodup ∧ ∀ term ∈ terms, term.term ∉ seen := by
  induction terms generalizing seen with
  | nil => exact ⟨List.nodup_nil, fun _ member => absurd member List.not_mem_nil⟩
  | cons first rest ih =>
      rw [validateTerms] at valid
      simp only [check_bind_eq_ok, require_eq_ok] at valid
      obtain ⟨-, -, fresh, later⟩ := valid
      obtain ⟨distinct, apart⟩ := ih later
      rw [List.map_cons, List.nodup_cons]
      refine ⟨⟨?_, distinct⟩, List.forall_mem_cons.mpr ⟨by simpa using fresh, ?_⟩⟩
      · intro again
        obtain ⟨term, member, same⟩ := List.mem_map.mp again
        exact apart term member (same ▸ List.mem_cons_self)
      · exact fun term member inside => apart term member (List.mem_cons_of_mem _ inside)

theorem Accepted.distinct_terms {snapshot : FabricSnapshot} (accepted : Accepted snapshot) :
    (snapshot.objective.terms.map ObjectiveWeight.term).Nodup := by
  have checked := ((validateStructure_eq_ok snapshot).1 accepted.valid).2.2.2.2.1
  simp only [validateObjective, check_bind_eq_ok, require_eq_ok] at checked
  exact (validateTerms_distinct checked.2.2.2.2).1

theorem weightOf_absent {terms : List ObjectiveWeight} {term : ObjectiveTerm}
    (absent : term ∉ terms.map ObjectiveWeight.term) : weightOf terms term = 0 := by
  have none : terms.find? (fun entry => entry.term == term) = none := by
    rw [List.find?_eq_none]
    intro entry listed same
    exact absent (List.mem_map.mpr ⟨entry, listed, by simpa using same⟩)
  unfold weightOf
  rw [none]

theorem weightOf_cons (entry : ObjectiveWeight) (rest : List ObjectiveWeight) (term : ObjectiveTerm) :
    weightOf (entry :: rest) term = if entry.term = term then entry.weight else weightOf rest term := by
  unfold weightOf
  by_cases same : entry.term = term
  · rw [List.find?_cons_of_pos (by simpa using same), if_pos same]
  · rw [List.find?_cons_of_neg (by simpa using same), if_neg same]

/-- A sum over a profile whose terms count for nothing but the given ones. -/
theorem sum_terms (terms : List ObjectiveWeight) (distinct : (terms.map ObjectiveWeight.term).Nodup)
    (counted : Finset ObjectiveTerm) (part : Int → ObjectiveTerm → Int) (idle : ∀ term, part 0 term = 0)
    (others : ∀ weight, ∀ term ∉ counted, part weight term = 0) :
    (terms.map fun entry => part entry.weight entry.term).sum =
      ∑ term ∈ counted, part (weightOf terms term) term := by
  induction terms with
  | nil =>
      symm
      exact Finset.sum_eq_zero fun term _ => idle term
  | cons entry rest ih =>
      rw [List.map_cons, List.nodup_cons] at distinct
      have split : ∀ term, part (weightOf (entry :: rest) term) term =
          (if entry.term = term then part entry.weight term else 0) + part (weightOf rest term) term := by
        intro term
        rw [weightOf_cons]
        by_cases same : entry.term = term
        · rw [if_pos same, if_pos same, ← same, weightOf_absent distinct.1, idle, Int.add_zero]
        · rw [if_neg same, if_neg same, Int.zero_add]
      rw [List.map_cons, List.sum_cons, ih distinct.2, Finset.sum_congr rfl fun term _ => split term,
        Finset.sum_add_distrib, Finset.sum_ite_eq]
      by_cases inside : entry.term ∈ counted
      · rw [if_pos inside]
      · rw [if_neg inside, others entry.weight entry.term inside]

theorem weighed_sub (terms : List ObjectiveWeight) (first second : ObjectiveTerm → Int) :
    weighed terms first - weighed terms second = (terms.map fun entry =>
      satMul entry.weight (first entry.term) - satMul entry.weight (second entry.term)).sum := by
  unfold weighed
  induction terms with
  | nil => rfl
  | cons entry rest ih =>
      rw [List.map_cons, List.map_cons, List.map_cons, List.sum_cons, List.sum_cons, List.sum_cons, ← ih]
      omega

/-! When an omission helps. -/

/-- The shortfalls that the demand adds to those of the others weigh no more than what it takes off the
fairness spread. -/
def OmissionCovered (terms : List ObjectiveWeight) (others : List (DemandAllocation × DemandDerivation))
    (demand : DemandDerivation) : Prop :=
  ∑ term ∈ shortfallTerms,
      (satMul (weightOf terms term) (min int64Max (shortfallSum term others + shortfall term 0 demand)) -
        satMul (weightOf terms term) (min int64Max (shortfallSum term others))) ≤
    satMul (weightOf terms .fairnessAcrossGroups) (fairnessSpread (tenantTotals others)) -
      satMul (weightOf terms .fairnessAcrossGroups)
        (fairnessSpread (withUnserved (tenantTotals others) demand))

/-- Sums that are cut at the int64 maximum compare as they are, unless the second is cut. -/
theorem min_le_min_iff_bound {first second : Int} : min int64Max first ≤ min int64Max second ↔
    int64Max ≤ second ∨ first ≤ second := by
  omega

/-- Nothing else that the score weighs changes. -/
theorem weighed_unserved {snapshot : FabricSnapshot} (accepted : Accepted snapshot) (left : Allocation)
    (demand : DemandDerivation) :
    weighed snapshot.objective.terms (unservedValue (scoredEntries (derivation snapshot) left) demand
        (rawValue (computeMetrics snapshot (derivation snapshot) left {}))) ≤
      weighed snapshot.objective.terms (rawValue (computeMetrics snapshot (derivation snapshot) left {})) ↔
    OmissionCovered snapshot.objective.terms (scoredEntries (derivation snapshot) left) demand := by
  have counts : ∀ term ∈ shortfallTerms,
    rawValue (computeMetrics snapshot (derivation snapshot) left {}) term =
      min int64Max (shortfallSum term (scoredEntries (derivation snapshot) left)) := fun term listed =>
    rawValue_shortfall _ _ _ listed
  have fair : rawValue (computeMetrics snapshot (derivation snapshot) left {}) .fairnessAcrossGroups =
      fairnessSpread (tenantTotals (scoredEntries (derivation snapshot) left)) := rfl
  generalize rawValue (computeMetrics snapshot (derivation snapshot) left {}) = value at counts fair ⊢
  generalize scoredEntries (derivation snapshot) left = others at counts fair ⊢
  have apart : ObjectiveTerm.fairnessAcrossGroups ∉ shortfallTerms := by decide
  have summed := sum_terms snapshot.objective.terms accepted.distinct_terms
    (insert .fairnessAcrossGroups shortfallTerms)
    (fun weight term => satMul weight (unservedValue others demand value term) - satMul weight (value term))
    (fun term => by rw [zero_satMul, zero_satMul, Int.sub_self])
    (fun weight term outside => by
      rw [Finset.mem_insert, not_or] at outside
      unfold unservedValue
      rw [if_neg outside.2, if_neg outside.1, Int.sub_self])
  have shortfalls : ∀ term ∈ shortfallTerms,
      satMul (weightOf snapshot.objective.terms term) (unservedValue others demand value term) -
          satMul (weightOf snapshot.objective.terms term) (value term) =
        satMul (weightOf snapshot.objective.terms term)
            (min int64Max (shortfallSum term others + shortfall term 0 demand)) -
          satMul (weightOf snapshot.objective.terms term) (min int64Max (shortfallSum term others)) := by
    intro term listed
    rw [unservedValue, if_pos listed, counts term listed]
  rw [← weighed_sub, Finset.sum_insert apart, Finset.sum_congr rfl shortfalls, unservedValue, if_neg apart,
    if_pos rfl, fair] at summed
  unfold OmissionCovered
  omega

/-- An omission never helps where the shortfalls it hides are covered, and elsewhere only when the score
without the entry is at its bound. -/
theorem omission_never_helps_iff {snapshot : FabricSnapshot} (accepted : Accepted snapshot)
    (weights : SupportedWeights snapshot) {allocation : Allocation}
    (distinct : (allocation.demands.map DemandAllocation.demand).Nodup) {entry : DemandAllocation}
    (listed : entry ∈ allocation.demands) :
    ((∀ derived demand, derive snapshot = .ok derived →
        (expectedDemands derived).find? entry.demand = some demand → demand.active = true →
          OmissionCovered snapshot.objective.terms (scoredEntries derived (allocation.without entry.demand))
            demand) →
      OmissionNeverHelps snapshot allocation entry.demand) ∧
    (OmissionNeverHelps snapshot allocation entry.demand →
      (∀ derived demand, derive snapshot = .ok derived →
        (expectedDemands derived).find? entry.demand = some demand → demand.active = true →
          OmissionCovered snapshot.objective.terms (scoredEntries derived (allocation.without entry.demand))
            demand) ∨
      int64Max ≤ (scoreAllocation snapshot (allocation.without entry.demand)).1) := by
  obtain ⟨before, after, without, unserving⟩ := split_at_entry distinct listed
  unfold OmissionNeverHelps
  cases derives : derive snapshot with
  | error reason =>
      unfold scoreAllocation
      rw [derives]
      exact ⟨fun _ => le_refl _, fun _ => Or.inl fun derived demand found => by cases found⟩
  | ok derived =>
      obtain ⟨-, rfl⟩ := (derive_eq_ok accepted derived).mp derives
      rw [scoreAllocation_eq accepted weights derives, scoreAllocation_eq accepted weights derives]
      by_cases counts : ∃ demand, (expectedDemands (derivation snapshot)).find? entry.demand = some demand ∧
          demand.active = true
      · obtain ⟨demand, known, active⟩ := counts
        have resources : (allocation.unserving entry.demand).resources =
            (allocation.without entry.demand).resources := rfl
        have values := funext (rawValue_unserved accepted resources without unserving known active)
        have covered := weighed_unserved accepted (allocation.without entry.demand) demand
        rw [values, min_le_min_iff_bound]
        constructor
        · intro every
          exact Or.inr (covered.mpr (every _ demand rfl known active))
        · rintro (full | helps)
          · exact Or.inr (by omega)
          · left
            intro other found same present _
            obtain rfl := Except.ok.inj same
            rw [known, Option.some.injEq] at present
            subst present
            exact covered.mp helps
      · -- A demand that does not count has the same metrics with and without its entry.
        have ignored : ∀ demand, (expectedDemands (derivation snapshot)).find? entry.demand = some demand →
            demand.active = false := by
          intro demand known
          by_contra active
          exact counts ⟨demand, known, by simpa using active⟩
        have same : computeMetrics snapshot (derivation snapshot) (allocation.unserving entry.demand) {} =
            computeMetrics snapshot (derivation snapshot) (allocation.without entry.demand) {} := by
          unfold computeMetrics
          rw [scoredEntries_ignored without unserving ignored, domainLoad_unserved without unserving]
          rfl
        rw [same]
        refine ⟨fun _ => le_refl _, fun _ => Or.inl fun other demand found known active => ?_⟩
        obtain rfl := Except.ok.inj found
        rw [ignored demand known] at active
        cases active

/-! Three demands of two tenants. The first tenant has all that it desires unless the third demand counts
too. -/

def tenantDemand (literal tenant : String) (floor desired : Int) : Demand :=
  { linkDemand with
    id := named literal
    tenant := named tenant
    minimumBandwidth := floor
    desiredBandwidth := desired
    maximumBandwidth := desired }

def tenantFabric : FabricSnapshot :=
  { meshFabric with
    demands := [tenantDemand "demand-1" "tenant-1" 0 40, tenantDemand "demand-2" "tenant-2" 0 80,
      tenantDemand "demand-3" "tenant-1" 20 40]
    objective := { linkFabric.objective with
      terms := [{ term := .satisfyMinimums, weight := 2 },
        { term := .fairnessAcrossGroups, weight := 1 }] } }

/-- The second tenant has half of what it desires. -/
def tenantServed : Allocation :=
  { demands :=
    [{ demand := named "demand-1", granted := 40, shares := [{ path := linkPath.id, granted := 40 }] },
      { demand := named "demand-2", granted := 40, shares := [{ path := linkPath.id, granted := 40 }] },
      { demand := named "demand-3" }] }

/-- The floor of twenty costs forty, and it takes five hundred off the spread. -/
theorem omission_never_helps_iff_tenantFabric :
    OmissionNeverHelps tenantFabric tenantServed (named "demand-3") ∧
    (scoreAllocation tenantFabric (tenantServed.unserving (named "demand-3"))).1 = 40 ∧
    (scoreAllocation tenantFabric (tenantServed.without (named "demand-3"))).1 = 500 := by
  have accepted : Accepted tenantFabric := accepted_of_checks _ (by decide +kernel) (by decide +kernel)
  have weights : SupportedWeights tenantFabric :=
    (supportedWeights_iff tenantFabric).mpr (by decide +kernel)
  have distinct : (tenantServed.demands.map DemandAllocation.demand).Nodup := by decide +kernel
  have listed : ({ demand := named "demand-3" } : DemandAllocation) ∈ tenantServed.demands := by
    decide +kernel
  refine ⟨(omission_never_helps_iff accepted weights distinct listed).1
    ?_, by decide +kernel, by decide +kernel⟩
  intro derived demand derives known _
  obtain ⟨-, rfl⟩ := (derive_eq_ok accepted derived).mp derives
  have third : (expectedDemands (derivation tenantFabric)).find? (named "demand-3") =
      some (derivedDemand tenantFabric (tenantDemand "demand-3" "tenant-1" 20 40)) := by decide +kernel
  rw [third, Option.some.injEq] at known
  subst known
  unfold OmissionCovered
  decide +kernel

/-- An allocation with an entry for the one demand of the link fabric. -/
def linkServed : Allocation :=
  { demands :=
    [{ demand := linkDemand.id, granted := 20, shares := [{ path := linkPath.id, granted := 20 }] }] }

/-- Left out, the demand of the link fabric costs nothing; listed, it falls short of its floor. -/
theorem linkServed_omission_helps : ¬ OmissionNeverHelps linkFabric linkServed linkDemand.id := by
  unfold OmissionNeverHelps
  decide +kernel

end TrafficFabric
