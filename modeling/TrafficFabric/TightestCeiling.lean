import TrafficFabric.CertificateSoundness
import TrafficFabric.Construction

set_option autoImplicit false

/- The search for the tightest ceiling. A wider ceiling widens every edge into the sink and no other,
so what fits under one ceiling fits under every wider one, and bisection finds the least. -/
namespace TrafficFabric

/-- The ceilings the bisection probes. -/
def probedCeilings (problem : Problem) : Nat → Int → Int → List Int
  | 0, _, _ => []
  | probes + 1, low, high =>
      if low ≤ high then
        let mid := low + (high - low).tdiv 2
        mid :: if (certify problem mid).feasible then
          if mid = 1 then [] else probedCeilings problem probes low (mid - 1)
        else probedCeilings problem probes (mid + 1) high
      else []

theorem ceilingOf_mono {usable : Int} (committed reserved available : Int) {narrow wide : Int}
    (usableNonneg : 0 ≤ usable) (usableBound : usable ≤ Limits.maxBandwidth) (nonneg : 0 ≤ narrow)
    (wider : narrow ≤ wide) (bounded : wide ≤ 1000) :
    ceilingOf usable committed reserved available narrow ≤
      ceilingOf usable committed reserved available wide := by
  have limit : Limits.maxBandwidth * 1000 ≤ int64Max := by decide
  have scaled : usable * narrow ≤ usable * wide := Int.mul_le_mul_of_nonneg_left wider usableNonneg
  have product : usable * wide ≤ Limits.maxBandwidth * 1000 :=
    Int.mul_le_mul usableBound bounded (by omega) (by decide)
  have scaledNonneg : 0 ≤ usable * narrow := Int.mul_nonneg usableNonneg nonneg
  have caps : (usable * narrow).tdiv 1000 ≤ (usable * wide).tdiv 1000 := by
    rw [Int.tdiv_eq_ediv_of_nonneg scaledNonneg, Int.tdiv_eq_ediv_of_nonneg (by omega)]
    exact Int.ediv_le_ediv (by decide) scaled
  unfold ceilingOf
  rw [mulChecked_of_nonneg usableNonneg nonneg (by omega), mulChecked_of_nonneg usableNonneg
    (by omega) (by omega)]
  dsimp only
  generalize (usable * narrow).tdiv 1000 = low at caps ⊢
  generalize (usable * wide).tdiv 1000 = high at caps ⊢
  apply max_le_max (le_refl 0)
  apply min_le_min (le_refl available)
  cases addChecked committed reserved with
  | none => exact caps
  | some claimed =>
      show (if claimed < low then low - claimed else 0) ≤ if claimed < high then high - claimed else 0
      split
      · split <;> omega
      · split <;> omega

section Monotone

variable {problem : Problem} {snapshot : FabricSnapshot} (accepted : Accepted snapshot)
variable (built : problem.BuiltFrom snapshot (derivation snapshot))
variable {narrow wide : Int} (nonneg : 0 ≤ narrow) (wider : narrow ≤ wide) (bounded : wide ≤ 1000)

include accepted built nonneg wider bounded

theorem ceiling_mono {id : ResourceId} {state : ResourceState}
    (found : problem.resources.find? id = some state) :
    (recomputeCeiling state narrow).ceiling ≤ (recomputeCeiling state wide).ceiling := by
  obtain ⟨source, member, -, same⟩ := built.resource_of accepted found
  have range := accepted.resource_range member
  have usable : state.usable = source.usableCapacity := congrArg ResourceState.usable same
  exact ceilingOf_mono _ _ _ (by omega) (by omega) nonneg wider bounded

/-- Every side cuts at least as much under the wider ceiling. -/
theorem crossing_mono (side : Nat → Bool) (source : side 0 = true) (sink : side 1 = false) :
    ((problem.arcs narrow).map (Arc.crossing side)).sum ≤
      ((problem.arcs wide).map (Arc.crossing side)).sum := by
  have ceilings : (problem.resources.keys.map fun resource =>
        if side (nodeOf problem.nodes.resources resource) then
          ((ceilingsAt problem narrow).find? resource).getD 0 else 0).sum ≤
      (problem.resources.keys.map fun resource =>
        if side (nodeOf problem.nodes.resources resource) then
          ((ceilingsAt problem wide).find? resource).getD 0 else 0).sum := by
    apply List.sum_le_sum
    intro resource member
    split
    · obtain ⟨state, found, below⟩ := ceilingAt_known member narrow
      obtain ⟨other, present, above⟩ := ceilingAt_known member wide
      rw [found, Option.some.injEq] at present
      subst present
      rw [below, above]
      exact ceiling_mono accepted built nonneg wider bounded found
    · exact le_refl 0
  rw [sum_crossing_arcs problem narrow side source sink, sum_crossing_arcs problem wide side source sink]
  unfold PathPacking.cutCapacity
  dsimp only
  omega

/-- What fits under a ceiling fits under every wider one, as far as certificates can be built. -/
theorem certify_mono (fits : (certify problem narrow).feasible = true)
    (done : (certify problem wide).built = true) : (certify problem wide).feasible = true := by
  by_cases unrouted : routedDemands problem.derivation = []
  · rw [(certify_unrouted unrouted narrow).2] at fits
    rw [(certify_unrouted unrouted wide).2, fits]
  · obtain ⟨near, measured⟩ := certify_measures accepted built unrouted (certify_built_of_feasible fits)
    obtain ⟨far, other⟩ := certify_measures accepted built unrouted done
    rw [measured.feasible, decide_eq_true_eq] at fits
    rw [other.feasible, decide_eq_true_eq]
    have least := measured.least far other.source other.sink
    have grows := crossing_mono accepted built nonneg wider bounded far other.source other.sink
    omega

end Monotone

/-! The search. -/

/-- The best of the probes so far is the end of the interval that is left, or there is none yet. -/
def BestSoFar (problem : Problem) (cap low high best : Int) : Prop :=
  best = 0 ∧ high = cap ∨
    best = high + 1 ∧ low ≤ best ∧ best ≤ cap ∧ (certify problem best).feasible = true

/-- The least feasible ceiling up to the cap, or zero when there is none. -/
def LeastFeasible (problem : Problem) (cap best : Int) : Prop :=
  (best = 0 ∨ 0 < best ∧ best ≤ cap ∧ (certify problem best).feasible = true) ∧
  ∀ permille, 0 < permille → permille ≤ cap → permille < best ∨ best = 0 →
    (certify problem permille).feasible = false

theorem BestSoFar.least {problem : Problem} {cap low high best : Int}
    (so_far : BestSoFar problem cap low high best)
    (positive : 0 < low) (closed : high < low)
    (below : ∀ permille, 0 < permille → permille < low → (certify problem permille).feasible = false) :
    LeastFeasible problem cap best := by
  rcases so_far with ⟨rfl, rfl⟩ | ⟨rfl, above, capped, feasible⟩
  · refine ⟨Or.inl rfl, ?_⟩
    intro permille start within _
    exact below permille start (by omega)
  · refine ⟨Or.inr ⟨by omega, capped, feasible⟩, ?_⟩
    intro permille start _ lower
    exact below permille start (by omega)

section Search

variable {problem : Problem} {snapshot : FabricSnapshot} (accepted : Accepted snapshot)
variable (built : problem.BuiltFrom snapshot (derivation snapshot))

include accepted built

/-- With nothing feasible below the interval, enough probes find the least feasible ceiling. -/
theorem tightestCeiling_spec {cap : Int} (bounded : cap ≤ 1000) (probes : Nat) : ∀ {low high best : Int},
    0 < low → high ≤ cap → high + 1 - low < 2 ^ probes →
    (∀ mid ∈ probedCeilings problem probes low high, (certify problem mid).built = true) →
    (∀ permille, 0 < permille → permille < low → (certify problem permille).feasible = false) →
    BestSoFar problem cap low high best →
    LeastFeasible problem cap (tightestCeiling problem probes low high best) := by
  induction probes with
  | zero =>
      intro low high best positive within few _ below best_
      rw [pow_zero] at few
      exact best_.least positive (by omega) below
  | succ probes ih =>
      intro low high best positive within few done below best_
      rw [tightestCeiling]
      rw [probedCeilings] at done
      rw [pow_succ] at few
      by_cases open_ : low ≤ high
      · rw [if_pos open_] at done ⊢
        have half : (high - low).tdiv 2 = (high - low) / 2 := Int.tdiv_eq_ediv_of_nonneg (by omega)
        dsimp only at done ⊢
        rw [half] at done ⊢
        generalize middle : low + (high - low) / 2 = mid at done ⊢
        obtain ⟨midBuilt, rest⟩ := List.forall_mem_cons.mp done
        rw [midBuilt]
        cases feasible : (certify problem mid).feasible with
        | true =>
            rw [feasible] at rest
            simp only [Bool.not_true, Bool.false_eq_true, ↓reduceIte] at rest ⊢
            split
            · rename_i first
              subst first
              refine ⟨Or.inr ⟨by decide, by omega, feasible⟩, ?_⟩
              intro permille start _ lower
              omega
            · rename_i later
              rw [if_neg later] at rest
              exact ih positive (by omega) (by omega) rest below
                (Or.inr ⟨by omega, by omega, by omega, feasible⟩)
        | false =>
            rw [feasible] at rest
            simp only [Bool.not_true, Bool.false_eq_true, ↓reduceIte] at rest ⊢
            apply ih (by omega) within (by omega) rest
            · intro permille start lower
              -- A feasible ceiling below the probe would make the probe feasible.
              by_contra fits
              rw [Bool.not_eq_false] at fits
              have wide := certify_mono accepted built (by omega) (by omega : permille ≤ mid)
                (by omega) fits midBuilt
              rw [wide] at feasible
              cases feasible
            · rcases best_ with none_ | ⟨next, above, capped, fits⟩
              · exact Or.inl none_
              · exact Or.inr ⟨next, by omega, capped, fits⟩
      · rw [if_neg open_]
        exact best_.least positive (by omega) below

end Search

section Tightest

variable {problem : Problem} {snapshot : FabricSnapshot} {derived : Derivation}

/-- The search ends with the least ceiling up to the policy cap that is feasible, and with zero exactly
when there is none. -/
theorem tightestCeiling_least (accepted : Accepted snapshot) (derives : derive snapshot = .ok derived)
    (built : problem.BuiltFrom snapshot derived)
    (probed : ∀ mid ∈ probedCeilings problem Limits.maxMaxUtilizationProbes 1
      snapshot.policy.maxUtilizationPermille,
      (certify problem mid).built = true) :
    let best := tightestCeiling problem Limits.maxMaxUtilizationProbes 1
      snapshot.policy.maxUtilizationPermille 0
    let feasible := fun permille => 1 ≤ permille ∧ permille ≤ snapshot.policy.maxUtilizationPermille ∧
      (certify problem permille).feasible = true
    (best = 0 ↔ ¬ ∃ permille, feasible permille) ∧
      (best ≠ 0 → feasible best ∧ ∀ permille, feasible permille → best ≤ permille) := by
  obtain ⟨-, rfl⟩ := (derive_eq_ok accepted derived).mp derives
  intro best feasible
  have cap := accepted.policy_cap
  have probes : snapshot.policy.maxUtilizationPermille + 1 - 1 < 2 ^ Limits.maxMaxUtilizationProbes := by
    have enough : (1000 : Int) < 2 ^ Limits.maxMaxUtilizationProbes := by decide
    omega
  obtain ⟨found, lower⟩ :=
    tightestCeiling_spec accepted built cap.2 Limits.maxMaxUtilizationProbes (by decide)
    (le_refl _) probes probed (fun permille start below => by omega)
    (Or.inl ⟨rfl, rfl⟩ : BestSoFar problem snapshot.policy.maxUtilizationPermille 1 _ 0)
  constructor
  · constructor
    · rintro nothing ⟨permille, start, within, fits⟩
      rw [lower permille (by omega) within (Or.inr nothing)] at fits
      cases fits
    · intro nothing
      rcases found with zero | ⟨start, within, fits⟩
      · exact zero
      · exact absurd ⟨_, by omega, within, fits⟩ nothing
  · intro something
    rcases found with zero | ⟨start, within, fits⟩
    · exact absurd zero something
    · refine ⟨⟨by omega, within, fits⟩, ?_⟩
      rintro permille ⟨first, last, also⟩
      by_contra below
      rw [lower permille (by omega) last (Or.inl (by omega))] at also
      cases also

/-- The mesh carries both floors from 400 permille on, and not below. -/
theorem tightestCeiling_least_meshFabric :
    let problem := makeProblem meshFabric (derivation meshFabric)
    let cap := meshFabric.policy.maxUtilizationPermille
    let best := tightestCeiling problem Limits.maxMaxUtilizationProbes 1 cap 0
    let feasible := fun permille => 1 ≤ permille ∧ permille ≤ cap ∧
      (certify problem permille).feasible = true
    best = 400 ∧ (∀ mid ∈ probedCeilings problem Limits.maxMaxUtilizationProbes 1 cap,
        (certify problem mid).built = true) ∧
      (best = 0 ↔ ¬ ∃ permille, feasible permille) ∧
      (best ≠ 0 → feasible best ∧ ∀ permille, feasible permille → best ≤ permille) := by
  intro problem cap best feasible
  have computed : best = 400 ∧ ∀ mid ∈ probedCeilings problem Limits.maxMaxUtilizationProbes 1 cap,
      (certify problem mid).built = true := by decide +kernel
  exact ⟨computed.1, computed.2, tightestCeiling_least meshFabric_accepted meshFabric_derives
    (makeProblem_builtFrom meshFabric (derivation meshFabric)) computed.2⟩

end Tightest

end TrafficFabric
