import TrafficFabric.AllocationBooks
import TrafficFabric.PlanBounds
import TrafficFabric.ScoreSums
import TrafficFabric.WireCodecs

set_option autoImplicit false

/- The score of an incumbent that was sent. A message carries the demands and the totals of an allocation
and not the use of its resources, which two of the terms read. -/
namespace TrafficFabric

/-! What the score and the comparison read. -/

/-- A share without what is not compared. -/
def PathShare.bare (share : PathShare) : PathShare := { path := share.path, granted := share.granted }

def DemandAllocation.bare (entry : DemandAllocation) : DemandAllocation :=
  { demand := entry.demand, granted := entry.granted, shares := entry.shares.map PathShare.bare }

/-- The grants of the allocation, without the use of its resources. -/
def Allocation.bare (allocation : Allocation) : Allocation :=
  { demands := allocation.demands.map DemandAllocation.bare, totalGranted := allocation.totalGranted }

theorem usedSharesOf_bare (entry : DemandAllocation) :
    usedSharesOf entry.bare = (usedSharesOf entry).map PathShare.bare := by
  unfold usedSharesOf DemandAllocation.bare
  dsimp only
  rw [List.filter_map]
  rfl

section Metrics

variable (snapshot : FabricSnapshot) (derived : Derivation) (allocation : Allocation)

/-- The entries that count, without what is not compared. -/
def bareEntries (scored : List (DemandAllocation × DemandDerivation)) :
    List (DemandAllocation × DemandDerivation) :=
  scored.map fun pair => (pair.1.bare, pair.2)

theorem scoredEntries_bare :
    scoredEntries derived allocation.bare = bareEntries (scoredEntries derived allocation) := by
  unfold scoredEntries bareEntries Allocation.bare
  dsimp only
  rw [List.filterMap_map, List.map_filterMap]
  congr 1
  funext entry
  have demand : entry.bare.demand = entry.demand := rfl
  dsimp only [Function.comp_apply]
  rw [demand]
  cases (expectedDemands derived).find? entry.demand with
  | none => rfl
  | some demand =>
      dsimp only
      split <;> rfl

theorem usedShares_bare (scored : List (DemandAllocation × DemandDerivation)) :
    ((bareEntries scored).flatMap fun pair => usedSharesOf pair.1) =
      (scored.flatMap fun pair => usedSharesOf pair.1).map PathShare.bare := by
  unfold bareEntries
  rw [List.flatMap_map, List.map_flatMap]
  congr 1
  funext pair
  exact usedSharesOf_bare pair.1

theorem pathCost_bare (scored : List (DemandAllocation × DemandDerivation)) :
    pathCost snapshot (bareEntries scored) = pathCost snapshot scored := by
  unfold pathCost
  rw [usedShares_bare, List.foldl_map]
  rfl

theorem tenantTotals_bare (scored : List (DemandAllocation × DemandDerivation)) :
    tenantTotals (bareEntries scored) = tenantTotals scored := by
  unfold tenantTotals bareEntries
  rw [List.foldl_map]
  rfl

theorem domainLoad_bare : domainLoad snapshot allocation.bare = domainLoad snapshot allocation := by
  have used : allocation.bare.demands.flatMap usedSharesOf =
      (allocation.demands.flatMap usedSharesOf).map PathShare.bare := by
    unfold Allocation.bare
    dsimp only
    rw [List.flatMap_map, List.map_flatMap]
    congr 1
    funext entry
    exact usedSharesOf_bare entry
  unfold domainLoad
  rw [used, List.foldl_map]
  rfl

/-- Of the metrics only the two that read the resources are lost. -/
theorem computeMetrics_bare : computeMetrics snapshot derived allocation.bare {} =
    { computeMetrics snapshot derived allocation {} with
      maxUtilizationPermille := 0
      congestionExposure := 0 } := by
  unfold computeMetrics
  rw [scoredEntries_bare]
  dsimp only
  rw [pathCost_bare, tenantTotals_bare, domainLoad_bare, usedShares_bare, List.length_map]
  unfold floorShortfall desiredShortfall weightedShortfall bareEntries
  rw [List.foldl_map, List.foldl_map, List.foldl_map]
  rfl

theorem computeMetrics_of_bare : computeMetrics snapshot derived allocation {} =
    { computeMetrics snapshot derived allocation.bare {} with
      maxUtilizationPermille :=
        allocation.resources.foldl (fun most resource => max most resource.utilizationPermille) 0
      congestionExposure := congestion allocation.resources } := by
  rw [computeMetrics_bare]
  rfl

/-- The score reads the grants and the resources, and nothing else. -/
theorem scoreAllocation_of_bare {other : Allocation} (same : allocation.bare = other.bare) :
    scoreAllocation snapshot allocation =
      scoreAllocation snapshot { other with resources := allocation.resources } := by
  unfold scoreAllocation
  cases derive snapshot with
  | error reason => rfl
  | ok derived =>
      have bare : ({ other with resources := allocation.resources } : Allocation).bare =
        allocation.bare := same.symm
      dsimp only
      rw [computeMetrics_of_bare snapshot derived allocation,
        computeMetrics_of_bare snapshot derived { other with resources := allocation.resources }, bare]

theorem shareTable_bare : shareTable allocation.bare = shareTable allocation := by
  unfold shareTable Allocation.bare
  rw [List.foldl_map]
  congr 1
  funext table entry
  unfold DemandAllocation.bare
  dsimp only
  rw [List.foldl_map]
  rfl

theorem domainTotals_bare : domainTotals snapshot allocation.bare = domainTotals snapshot allocation := by
  have shares : allocation.bare.demands.flatMap DemandAllocation.shares =
      (allocation.demands.flatMap DemandAllocation.shares).map PathShare.bare := by
    unfold Allocation.bare
    dsimp only
    rw [List.flatMap_map, List.map_flatMap]
    rfl
  unfold domainTotals
  rw [shares, List.foldl_map]
  rfl

/-- The comparison does not read the resources. -/
theorem compareChurn_bare (proposal : Allocation) (policy : Policy) (incumbentScore proposalScore : Int) :
    compareChurn allocation.bare proposal snapshot policy incumbentScore proposalScore =
      compareChurn allocation proposal snapshot policy incumbentScore proposalScore := by
  have changes : shareChanges allocation.bare proposal = shareChanges allocation proposal := by
    unfold shareChanges
    rw [shareTable_bare]
  have count : allocation.bare.demands.length = allocation.demands.length := List.length_map _
  have empty : allocation.bare.demands.isEmpty = allocation.demands.isEmpty := List.isEmpty_map
  have measured : measureChurn allocation.bare proposal snapshot policy incumbentScore proposalScore =
      measureChurn allocation proposal snapshot policy incumbentScore proposalScore := by
    unfold measureChurn
    rw [changes, domainTotals_bare, count]
    rfl
  unfold compareChurn
  rw [measured, empty]
  rfl

end Metrics

/-! What is received. -/

/-- The grants of the allocation fit the integers of the source. -/
structure Allocation.Int64Grants (allocation : Allocation) : Prop where
  entries : ∀ entry ∈ allocation.demands, InInt64 entry.granted
  shares : ∀ entry ∈ allocation.demands, ∀ share ∈ entry.shares, InInt64 share.granted
  total : InInt64 allocation.totalGranted

theorem Allocation.Int64Grants.carried_bare {allocation : Allocation} (grants : allocation.Int64Grants) :
    allocation.carried.bare = allocation.bare := by
  have demands : allocation.carried.demands.map DemandAllocation.bare =
      allocation.demands.map DemandAllocation.bare := by
    unfold Allocation.carried
    dsimp only
    rw [List.map_map]
    apply List.map_congr_left
    intro entry member
    have shares : entry.carried.shares.map PathShare.bare = entry.shares.map PathShare.bare := by
      unfold DemandAllocation.carried
      dsimp only
      rw [List.map_map]
      apply List.map_congr_left
      intro share listed
      rw [Function.comp_apply]
      unfold PathShare.carried PathShare.bare
      dsimp only
      rw [wrap64_eq (grants.shares entry member share listed)]
    have granted : entry.carried.granted = entry.granted := wrap64_eq (grants.entries entry member)
    rw [Function.comp_apply]
    unfold DemandAllocation.bare
    rw [shares, granted]
    rfl
  have total : allocation.carried.totalGranted = allocation.totalGranted := wrap64_eq grants.total
  unfold Allocation.bare
  rw [demands, total]

section Carried

variable {allocation : Allocation} (grants : allocation.Int64Grants) (snapshot : FabricSnapshot)

include grants

theorem computeMetrics_carried (derived : Derivation) :
    computeMetrics snapshot derived allocation.carried {} =
    { computeMetrics snapshot derived allocation {} with
      maxUtilizationPermille := 0
      congestionExposure := 0 } := by
  rw [← computeMetrics_bare, ← grants.carried_bare, computeMetrics_bare]
  rfl

theorem compareChurn_carried (proposal : Allocation) (policy : Policy)
    (incumbentScore proposalScore : Int) :
    compareChurn allocation.carried proposal snapshot policy incumbentScore proposalScore =
      compareChurn allocation proposal snapshot policy incumbentScore proposalScore := by
  rw [← compareChurn_bare, grants.carried_bare, compareChurn_bare]

end Carried

theorem decodeAllocation_encode {allocation : Allocation}
    (few : allocation.demands.length ≤ Limits.maxDemands)
    (readable : ∀ demand ∈ allocation.demands, demand.Readable) :
    decodeAllocation (encodeAllocation allocation) = .ok allocation.carried :=
  (Recovers.of_yields (Wire.carriedAllocation_yields few readable) Wire.readCarriedAllocation_stable _).read

theorem Allocation.Drafted.int64Grants {allocation : Allocation} (drafted : allocation.Drafted) :
    allocation.Int64Grants := by
  have wide : int64Min ≤ 0 ∧ Limits.maxBandwidth ≤ int64Max := by decide
  refine ⟨fun entry listed => ?_, fun entry listed share inside => ?_, ?_⟩
  · have range := drafted.entries entry listed
    exact ⟨by omega, by omega⟩
  · have range := drafted.entries entry listed
    have positive := drafted.shares entry listed share inside
    have part := drafted.share_le listed inside
    exact ⟨by omega, by omega⟩
  · have nonneg := drafted.total_nonneg
    exact ⟨by omega, drafted.fits⟩

/-! The terms that are lost. -/

/-- The metrics of an allocation whose resources are not known. -/
def Metrics.withoutResources (metrics : Metrics) : Metrics :=
  { metrics with
    maxUtilizationPermille := 0
    congestionExposure := 0 }

/-- The part of a raw value that is read off the resources. -/
def resourceValue (metrics : Metrics) : ObjectiveTerm → Int
  | .minimizeMaxUtilization => metrics.maxUtilizationPermille
  | .minimizeCongestionExposure => metrics.congestionExposure
  | _ => 0

/-- No listed term finds a resource in use. -/
def ReadsNoResource (snapshot : FabricSnapshot) (allocation : Allocation) : Prop :=
  ∀ term ∈ snapshot.objective.terms, match term.term with
    | .minimizeMaxUtilization => ∀ resource ∈ allocation.resources, resource.utilizationPermille ≤ 0
    | .minimizeCongestionExposure => ∀ resource ∈ allocation.resources, exposure resource = 0
    | _ => True

theorem rawValue_withoutResources (metrics : Metrics) (term : ObjectiveTerm) :
    rawValue metrics term = rawValue metrics.withoutResources term + resourceValue metrics term := by
  cases term with
  | minimizeMaxUtilization | minimizeCongestionExposure => exact (Int.zero_add _).symm
  | satisfyMinimums | minimizeTotalPathCost | minimizeChurn | preserveReservations | preservePriority
  | maximizeDesiredBandwidth | fairnessAcrossGroups | minimizeFailureDomainConcentration
  | minimizePathCount =>
      exact (Int.add_zero _).symm

theorem satMul_withoutResources (weight : Int) (metrics : Metrics) (term : ObjectiveTerm) :
    satMul weight (rawValue metrics term) =
      satMul weight (rawValue metrics.withoutResources term) + satMul weight
        (resourceValue metrics term) := by
  cases term with
  | minimizeMaxUtilization | minimizeCongestionExposure =>
      change _ = satMul weight 0 + _
      rw [satMul_zero, Int.zero_add]
      rfl
  | satisfyMinimums | minimizeTotalPathCost | minimizeChurn | preserveReservations | preservePriority
  | maximizeDesiredBandwidth | fairnessAcrossGroups | minimizeFailureDomainConcentration
  | minimizePathCount =>
      change _ = _ + satMul weight 0
      rw [satMul_zero, Int.add_zero]
      rfl

section Terms

variable {snapshot : FabricSnapshot} {derived : Derivation} {allocation : Allocation}

theorem maxUtilization_eq_zero_iff :
    (computeMetrics snapshot derived allocation {}).maxUtilizationPermille = 0 ↔
    ∀ resource ∈ allocation.resources, resource.utilizationPermille ≤ 0 := by
  obtain ⟨grounded, above⟩ := le_foldl_max ResourceUtilization.utilizationPermille allocation.resources 0
  change allocation.resources.foldl (fun most resource => max most resource.utilizationPermille) 0 = 0 ↔ _
  constructor
  · intro zero resource member
    have most := above resource member
    omega
  · intro idle
    have most := foldl_max_le (le_refl 0) idle
    omega

variable (snapshot derived allocation) in
theorem resourceValue_nonneg (term : ObjectiveTerm) :
    0 ≤ resourceValue (computeMetrics snapshot derived allocation {}) term := by
  cases term with
  | minimizeMaxUtilization =>
      exact (le_foldl_max ResourceUtilization.utilizationPermille allocation.resources 0).1
  | minimizeCongestionExposure => exact congestion_nonneg allocation.resources
  | satisfyMinimums | minimizeTotalPathCost | minimizeChurn | preserveReservations | preservePriority
  | maximizeDesiredBandwidth | fairnessAcrossGroups | minimizeFailureDomainConcentration
  | minimizePathCount =>
      exact le_refl 0

variable (derived) in
theorem readsNoResource_iff : ReadsNoResource snapshot allocation ↔ ∀ term ∈ snapshot.objective.terms,
    resourceValue (computeMetrics snapshot derived allocation {}) term.term = 0 := by
  unfold ReadsNoResource
  apply forall₂_congr
  intro term _
  cases term.term with
  | minimizeMaxUtilization => exact maxUtilization_eq_zero_iff.symm
  | minimizeCongestionExposure => exact (congestion_eq_zero_iff allocation.resources).symm
  | satisfyMinimums | minimizeTotalPathCost | minimizeChurn | preserveReservations | preservePriority
  | maximizeDesiredBandwidth | fairnessAcrossGroups | minimizeFailureDomainConcentration
  | minimizePathCount =>
      exact iff_of_true trivial rfl

theorem validateTerms_weights {seen : List ObjectiveTerm} {terms : List ObjectiveWeight}
    (valid : validateTerms seen terms = .ok ()) : ∀ term ∈ terms, term.weight ≠ 0 := by
  induction terms generalizing seen with
  | nil => exact fun _ member => absurd member List.not_mem_nil
  | cons first rest ih =>
      rw [validateTerms] at valid
      simp only [check_bind_eq_ok, require_eq_ok] at valid
      obtain ⟨-, weight, -, later⟩ := valid
      exact List.forall_mem_cons.mpr ⟨by simpa using weight, ih later⟩

/-- A validated profile weighs every term that it lists. -/
theorem Accepted.weight_ne_zero (accepted : Accepted snapshot) :
    ∀ term ∈ snapshot.objective.terms, term.weight ≠ 0 := by
  have checked := ((validateStructure_eq_ok snapshot).1 accepted.valid).2.2.2.2.1
  simp only [validateObjective, check_bind_eq_ok, require_eq_ok] at checked
  exact validateTerms_weights checked.2.2.2.2

end Terms

/-! Transported scores. -/

/-- The allocation that is received scores as the one that was sent, component by component, and every
proposal is compared with it alike. -/
structure ScoreSurvives (snapshot : FabricSnapshot) (sent received : Allocation) : Prop where
  score : scoreAllocation snapshot received = scoreAllocation snapshot sent
  churn : ∀ (proposal : Allocation) (policy : Policy) (proposalScore : Int),
    compareChurn received proposal snapshot policy (scoreAllocation snapshot received).1 proposalScore =
      compareChurn sent proposal snapshot policy (scoreAllocation snapshot sent).1 proposalScore

section Survival

variable {snapshot : FabricSnapshot} {derived : Derivation} {allocation : Allocation}
variable (grants : allocation.Int64Grants) (derives : derive snapshot = .ok derived)

include grants derives

/-- The components are equal where none of them read a resource in use. -/
theorem scoreAllocation_carried_iff :
    scoreAllocation snapshot allocation.carried = scoreAllocation snapshot allocation ↔
      ReadsNoResource snapshot allocation := by
  have apart : ∀ term, rawValue (computeMetrics snapshot derived allocation {}) term =
      rawValue (computeMetrics snapshot derived allocation.carried {}) term +
        resourceValue (computeMetrics snapshot derived allocation {}) term := by
    intro term
    rw [computeMetrics_carried grants]
    exact rawValue_withoutResources _ term
  rw [readsNoResource_iff derived]
  unfold scoreAllocation
  rw [derives]
  constructor
  · intro same term member
    have components := List.map_inj_left.mp (congrArg Prod.snd same) term member
    have raw : rawValue (computeMetrics snapshot derived allocation.carried {}) term.term =
        rawValue (computeMetrics snapshot derived allocation {}) term.term :=
      congrArg ObjectiveComponent.raw components
    have parts := apart term.term
    omega
  · intro unread
    have components : snapshot.objective.terms.map
      (componentOf (computeMetrics snapshot derived allocation.carried {})) =
        snapshot.objective.terms.map (componentOf (computeMetrics snapshot derived allocation {})) := by
      apply List.map_congr_left
      intro term member
      unfold componentOf
      rw [apart term.term, unread term member, Int.add_zero]
    unfold scoreFromMetrics
    dsimp only
    rw [components]

/-- The total alone may also agree because the other terms reach the bound without the resources. -/
theorem scoreAllocation_carried_total_iff (accepted : Accepted snapshot)
    (weights : SupportedWeights snapshot) :
    (scoreAllocation snapshot allocation.carried).1 = (scoreAllocation snapshot allocation).1 ↔
      ReadsNoResource snapshot allocation ∨ int64Max ≤ weighed snapshot.objective.terms
        (rawValue (computeMetrics snapshot derived allocation.carried {})) := by
  have nonneg : ∀ term ∈ snapshot.objective.terms,
      0 ≤ satMul term.weight (resourceValue (computeMetrics snapshot derived allocation {}) term.term) :=
    fun term member =>
      satMul_nonneg (weights term member) (resourceValue_nonneg snapshot derived allocation term.term)
  have lost := sum_map_nonneg (fun term : ObjectiveWeight =>
    satMul term.weight (resourceValue (computeMetrics snapshot derived allocation {}) term.term)) _ nonneg
  have unread : weighed snapshot.objective.terms
    (resourceValue (computeMetrics snapshot derived allocation {})) = 0 ↔
      ReadsNoResource snapshot allocation := by
    rw [readsNoResource_iff derived]
    unfold weighed
    rw [sum_map_eq_zero_iff nonneg]
    apply forall₂_congr
    intro term member
    have weight := accepted.weight_ne_zero term member
    have positive := weights term member
    constructor
    · intro zero
      by_contra used
      have value := resourceValue_nonneg snapshot derived allocation term.term
      have product : 0 < term.weight * resourceValue
          (computeMetrics snapshot derived allocation {}) term.term :=
        Int.mul_pos (by omega) (by omega)
      have wide : (0 : Int) < int64Max := by decide
      rw [satMul_of_nonneg positive value] at zero
      omega
    · intro zero
      rw [zero, satMul_zero]
  have split : weighed snapshot.objective.terms (rawValue (computeMetrics snapshot derived allocation {})) =
      weighed snapshot.objective.terms (rawValue (computeMetrics snapshot derived allocation.carried {})) +
        weighed snapshot.objective.terms
          (resourceValue (computeMetrics snapshot derived allocation {})) := by
    rw [computeMetrics_carried grants]
    exact weighed_add fun term _ => satMul_withoutResources term.weight _ term.term
  rw [scoreAllocation_eq accepted weights derives, scoreAllocation_eq accepted weights derives,
    split, ← unread]
  change 0 ≤ weighed _ _ at lost
  omega

end Survival

/-- The score of a constructed allocation survives the wire exactly where it reads no resource in use. -/
theorem score_survives_iff {snapshot source : FabricSnapshot} {options : SolveOptions}
    {outcome : SolveOutcome}
    (accepted : Accepted snapshot) (planned : Accepted source) (solved : solve source options = .ok outcome)
    (narrow : outcome.allocation.Narrow) :
    ∃ received, decodeAllocation (encodeAllocation outcome.allocation) = .ok received ∧
      (ScoreSurvives snapshot outcome.allocation received ↔
        ∀ derived, derive snapshot = .ok derived → ReadsNoResource snapshot outcome.allocation) ∧
      (SupportedWeights snapshot →
        ((scoreAllocation snapshot received).1 = (scoreAllocation snapshot outcome.allocation).1 ↔
          ∀ derived, derive snapshot = .ok derived → ReadsNoResource snapshot outcome.allocation ∨
            int64Max ≤ weighed snapshot.objective.terms
              (rawValue (computeMetrics snapshot derived received {})))) := by
  have bounded := (solve_bounded planned solved).allocation
  have grants := (solve_drafted planned solved).int64Grants
  have received := decodeAllocation_encode bounded.demandCount fun entry listed =>
    ⟨(bounded.demands entry listed).named, narrow entry listed, (bounded.demands entry listed).shares⟩
  have survives : ScoreSurvives snapshot outcome.allocation outcome.allocation.carried ↔
      scoreAllocation snapshot outcome.allocation.carried =
        scoreAllocation snapshot outcome.allocation := by
    refine ⟨ScoreSurvives.score, fun same => ⟨same, fun proposal policy proposalScore => ?_⟩⟩
    rw [same, compareChurn_carried grants]
  refine ⟨outcome.allocation.carried, received, ?_, fun weights => ?_⟩
  · rw [survives]
    cases derives : derive snapshot with
    | error reason =>
        unfold scoreAllocation
        rw [derives]
        exact iff_of_true rfl nofun
    | ok derived =>
        rw [scoreAllocation_carried_iff grants derives]
        constructor
        · exact fun unread _ _ => unread
        · exact fun unread => unread derived rfl
  · cases derives : derive snapshot with
    | error reason =>
        unfold scoreAllocation
        rw [derives]
        exact iff_of_true rfl nofun
    | ok derived =>
        rw [scoreAllocation_carried_total_iff grants derives accepted weights]
        constructor
        · intro same other found
          obtain rfl := Except.ok.inj found
          exact same
        · exact fun same => same derived rfl

/-- Where only the floors count, the plan of the link fabric is scored alike on both sides. -/
theorem score_survives_iff_linkFabric : ∃ outcome received, solve linkFabric {} = .ok outcome ∧
    decodeAllocation (encodeAllocation outcome.allocation) = .ok received ∧
    ScoreSurvives linkFabric outcome.allocation received := by
  have derives : derive linkFabric = .ok (derivation linkFabric) :=
    (derive_eq_ok linkFabric_accepted _).mpr ⟨by decide +kernel, rfl⟩
  have solved : solve linkFabric {} = .ok (solveDerived linkFabric (derivation linkFabric) {}) :=
    solve_of_derives derives (by decide)
  have narrow : Allocation.Narrow (solveDerived linkFabric (derivation linkFabric) {}).allocation := by
    unfold Allocation.Narrow
    decide +kernel
  obtain ⟨received, found, survives, -⟩ :=
    score_survives_iff linkFabric_accepted linkFabric_accepted solved narrow
  refine ⟨_, received, solved, found, survives.mpr fun derived _ term member => ?_⟩
  obtain rfl := List.mem_singleton.mp member
  trivial

/-- The link fabric, where only the utilisation counts. -/
def utilizedFabric : FabricSnapshot :=
  { linkFabric with
    objective := { linkFabric.objective with terms := [{ term := .minimizeMaxUtilization, weight := 1 }] } }

theorem utilizedFabric_accepted : Accepted utilizedFabric :=
  accepted_of_checks utilizedFabric (by decide +kernel) (by decide +kernel)

/-- The plan that is sent as its own incumbent scores nothing, and the same plan is then refused as a
regression. -/
theorem utilizedFabric_score_lost : ∃ outcome received, solve utilizedFabric {} = .ok outcome ∧
    outcome.allocation.Narrow ∧ decodeAllocation (encodeAllocation outcome.allocation) = .ok received ∧
    (scoreAllocation utilizedFabric outcome.allocation).1 = 100 ∧
      (scoreAllocation utilizedFabric received).1 = 0 ∧
    (compareChurn outcome.allocation outcome.allocation utilizedFabric utilizedFabric.policy
      (scoreAllocation utilizedFabric outcome.allocation).1 outcome.score).decision = .accept ∧
    (compareChurn received outcome.allocation utilizedFabric utilizedFabric.policy
      (scoreAllocation utilizedFabric received).1 outcome.score).decision = .rejectRegression := by
  have derives : derive utilizedFabric = .ok (derivation utilizedFabric) :=
    (derive_eq_ok utilizedFabric_accepted _).mpr ⟨by decide +kernel, rfl⟩
  have solved : solve utilizedFabric {} =
      .ok (solveDerived utilizedFabric (derivation utilizedFabric) {}) :=
    solve_of_derives derives (by decide)
  have narrow :
      Allocation.Narrow (solveDerived utilizedFabric (derivation utilizedFabric) {}).allocation := by
    unfold Allocation.Narrow
    decide +kernel
  have bounded := (solve_bounded utilizedFabric_accepted solved).allocation
  have found := decodeAllocation_encode bounded.demandCount fun entry listed =>
    ⟨(bounded.demands entry listed).named, narrow entry listed, (bounded.demands entry listed).shares⟩
  exact ⟨_, _, solved, narrow,
    found, by decide +kernel, by decide +kernel, by decide +kernel, by decide +kernel⟩

end TrafficFabric
