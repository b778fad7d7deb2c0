import TrafficFabric.FloorReports
import TrafficFabric.RepairMoves
import TrafficFabric.SolverVerdicts
import TrafficFabric.TightestCeiling

set_option autoImplicit false

/- Two ways to classify a shortage. The utilisation search reads the status off two certificates, the status
block looks at policy and at the path sets first; both come down to a few facts about the fabric. -/
namespace TrafficFabric

/-! A problem whose floors are met is a proof that the fabric carries them. -/

section Carried

variable {snapshot : FabricSnapshot} {permille : Int} (accepted : Accepted snapshot)
variable {problem : Problem} (safe : problem.Safe snapshot permille)

include accepted safe

/-- The shares of a demand, taken along its eligible paths. -/
theorem placed_along {demand : Demand} (member : demand ∈ snapshot.demands) (uses : PathId → Bool) :
    (problem.demandOf demand.id).placed uses =
      ((derivedDemand snapshot demand).eligiblePaths.map fun path =>
      if uses path then (problem.demandOf demand.id).share path else 0).sum := by
  obtain ⟨state, found, current, derived, -⟩ := safe.demand_state accepted member
  rw [current, DemandState.placed, OrdMap.total_eq_sum _ _ (derivedDemand_eligible_nodup accepted demand)]
  · apply congrArg List.sum
    apply List.map_congr_left
    intro path _
    unfold DemandState.share
    cases state.shares.find? path with
    | none => simp
    | some amount => rfl
  · intro path listed
    rw [OrdMap.mem_keys_iff, Option.isSome_iff_exists] at listed
    obtain ⟨amount, held⟩ := listed
    rw [← derived]
    exact (safe.consistent.shares _ state found path amount held).2.1

theorem shares_carry {cap : Int} (nonneg : 0 ≤ permille) (within : permille ≤ cap) (bounded : cap ≤ 1000)
    (met : floorsMet problem = true) :
    CarriesFloors problem cap fun id path => (problem.demandOf id).share path := by
  have built := safe.consistent.built
  refine ⟨fun demand _ path _ => (safe.consistent.share_range demand.demand path).1, ?_, ?_⟩
  · rw [built.derivation]
    intro entry listed active
    obtain ⟨demand, member, rfl⟩ := List.mem_map.mp listed
    obtain ⟨state, found, current, -, -⟩ := safe.demand_state accepted member
    rw [derivedDemand_active] at active
    have floor := granted_of_floorsMet accepted safe met member active
    have along := placed_along accepted safe member fun _ => true
    rw [current, ← safe.consistent.grants _ state found] at along
    rw [current, along] at floor
    rw [derivedDemand_demand, current]
    simpa using floor
  · intro id resource found
    have load := built.load_eq accepted id
    have same : rateLoad problem (fun id path => (problem.demandOf id).share path) id =
        problem.load id := by
      rw [load, rateLoad, built.derivation]
      change ((snapshot.demands.map (derivedDemand snapshot)).map _).sum = _
      rw [List.map_map]
      apply congrArg List.sum
      apply List.map_congr_left
      intro demand member
      rw [placed_along accepted safe member]
      simp only [Function.comp_apply, derivedDemand_demand, decide_eq_true_eq]
    have loaded := safe.consistent.loads id resource found
    have below := safe.consistent.within id resource found
    have ceiling := safe.consistent.ceilings id resource found
    have wider := ceiling_mono accepted built nonneg within bounded found
    rw [same]
    omega

/-- Floors that could be placed are floors that the certificate finds room for. -/
theorem feasible_of_floorsMet {cap : Int} (nonneg : 0 ≤ permille) (within : permille ≤ cap)
    (bounded : cap ≤ 1000)
    (met : floorsMet problem = true) (done : (certify problem cap).built = true) :
    (certify problem cap).feasible = true :=
  certify_feasible_of_rates accepted safe.consistent.built
    (shares_carry accepted safe nonneg within bounded met) done

end Carried

/-! The causes that the two classifications look at. -/

/-- The proof of infeasibility that a status stands for. -/
def FeasibilityStatus.shortage : FeasibilityStatus → Option FeasibilityStatus
  | .infeasibleCapacity => some .infeasibleCapacity
  | .infeasiblePolicy => some .infeasiblePolicy
  | .infeasiblePathSet => some .infeasiblePathSet
  | _ => none

theorem FeasibilityStatus.shortage_eq {status cause : FeasibilityStatus}
    (proved : status.shortage = some cause) :
    status = cause := by
  cases status <;> first
    | exact Option.some.inj proved
    | cases proved

/-- The floors fit under the policy cap, as far as the certificate can tell. -/
def fitsCap (snapshot : FabricSnapshot) (derived : Derivation) : Bool :=
  (certify (makeProblem snapshot derived) snapshot.policy.maxUtilizationPermille).feasible

/-- Policy excludes a demand that declares a floor. -/
def excludesFloor (snapshot : FabricSnapshot) (derived : Derivation) : Bool :=
  policyBlocked (makeProblem snapshot derived)

/-- What a shortage under the cap is put down to. -/
def shortageUnderCap (snapshot : FabricSnapshot) (derived : Derivation) : FeasibilityStatus :=
  if snapshot.policy.maxUtilizationPermille < 1000 ∧
    (certify (makeProblem snapshot derived) 1000).feasible then
    .infeasiblePolicy
  else .infeasibleCapacity

structure CertificatesBuilt (snapshot : FabricSnapshot) (derived : Derivation) : Prop where
  probed : ∀ mid ∈ probedCeilings (makeProblem snapshot derived) Limits.maxMaxUtilizationProbes 1
    snapshot.policy.maxUtilizationPermille, (certify (makeProblem snapshot derived) mid).built = true
  capped : (certify (makeProblem snapshot derived) snapshot.policy.maxUtilizationPermille).built = true
  uncapped : (certify (makeProblem snapshot derived) 1000).built = true

/-- What the status block arrives at. -/
def blockShortage (snapshot : FabricSnapshot) (derived : Derivation) : Option FeasibilityStatus :=
  if excludesFloor snapshot derived then some .infeasiblePolicy
  else if fitsCap snapshot derived then none
  else if (starvedDemands derived).isEmpty then some (shortageUnderCap snapshot derived)
  else some .infeasiblePathSet

theorem policyBlocked_unmet {problem : Problem} (blocked : policyBlocked problem = true) :
    floorsMet problem ≠ true := by
  unfold policyBlocked at blocked
  obtain ⟨demand, listed, facts⟩ := List.any_eq_true.mp blocked
  intro met
  have checked := List.all_eq_true.mp met demand listed
  rw [Bool.and_eq_true, Bool.and_eq_true, Bool.not_eq_true', decide_eq_true_eq] at facts
  obtain ⟨⟨active, excluded⟩, positive⟩ := facts
  simp only [active, excluded, Bool.not_true, Bool.false_eq_true, ↓reduceIte, Bool.false_or,
    decide_eq_true_eq] at checked
  omega

/-- No branch of the certificate forgets a demand without a path. -/
theorem certify_starved (problem : Problem) (permille : Int) :
    (certify problem permille).onlyPathStarved = !(starvedDemands problem.derivation).isEmpty := by
  unfold certify
  dsimp only
  split
  · rfl
  · split
    · rfl
    · split
      · rfl
      · split
        · rfl
        · split
          · rfl
          · split
            · rfl
            · rfl

section Block

variable {snapshot : FabricSnapshot} {permille : Int} (accepted : Accepted snapshot)

include accepted

theorem excludesFloor_eq {problem : Problem} (safe : problem.Safe snapshot permille) :
    policyBlocked problem = excludesFloor snapshot (derivation snapshot) := by
  have fresh := fresh_safe accepted permille
  rw [Bool.eq_iff_iff, policyBlocked_iff accepted safe]
  exact (policyBlocked_iff accepted fresh).symm

theorem verdictOf_shortage {problem : Problem} (safe : problem.Safe snapshot permille)
    (nonneg : 0 ≤ permille)
    (within : permille ≤ snapshot.policy.maxUtilizationPermille)
    (built : CertificatesBuilt snapshot (derivation snapshot)) (options : SolveOptions) :
    (verdictOf snapshot.policy options problem false).status.shortage =
      blockShortage snapshot (derivation snapshot) := by
  have cap := accepted.policy_cap
  have same := fun ceiling => certify_congr safe.consistent.built
    (makeProblem_builtFrom snapshot (derivation snapshot)) ceiling
  have excluded := excludesFloor_eq accepted safe
  unfold verdictOf blockShortage
  dsimp only
  rw [if_neg (by decide), excluded]
  by_cases blocked : excludesFloor snapshot (derivation snapshot) = true
  · rw [if_neg (policyBlocked_unmet (excluded.trans blocked)), if_pos blocked, if_pos blocked]
    rfl
  rw [if_neg blocked, if_neg blocked]
  by_cases met : floorsMet problem = true
  · have fits := feasible_of_floorsMet accepted safe nonneg within cap.2 met
      (by rw [same]; exact built.capped)
    rw [same] at fits
    rw [if_pos met, if_pos (show fitsCap snapshot (derivation snapshot) = true from fits)]
    rfl
  rw [if_neg met, same, built.capped, Bool.true_and]
  by_cases fits : fitsCap snapshot (derivation snapshot) = true
  · rw [if_neg (by rw [show (certify _ _).feasible = true from fits]; decide), if_pos fits]
    split
    · rfl
    · rfl
  · rw [if_pos (by simpa [fitsCap] using fits), if_neg fits, certifiedVerdict, same, built.uncapped,
      certify_starved, Bool.and_true,
      show (makeProblem snapshot (derivation snapshot)).derivation = derivation snapshot from rfl]
    by_cases starved : (starvedDemands (derivation snapshot)).isEmpty = true
    · rw [starved, if_neg (by decide), if_pos rfl]
      unfold shortageUnderCap
      simp only [Bool.and_eq_true, decide_eq_true_eq]
      split
      · rfl
      · rfl
    · rw [Bool.not_eq_true] at starved
      rw [starved, if_pos (by decide), if_neg (by decide)]
      rfl

end Block

/-! Calls of the solver. -/

section Calls

variable {snapshot : FabricSnapshot} (accepted : Accepted snapshot)
variable (fits : overflowingResource snapshot = none)
    (quiet : reservationConflict (derivation snapshot) = false)
variable (built : CertificatesBuilt snapshot (derivation snapshot))

include accepted built

include quiet in
theorem startingCeiling_zero_iff
    (requested : hasTerm snapshot.objective.terms .minimizeMaxUtilization = true) :
    startingCeiling snapshot (derivation snapshot) = 0 ↔
      fitsCap snapshot (derivation snapshot) = false := by
  have cap := accepted.policy_cap
  have fresh := makeProblem_builtFrom snapshot (derivation snapshot)
  have probes : snapshot.policy.maxUtilizationPermille + 1 - 1 < 2 ^ Limits.maxMaxUtilizationProbes := by
    have enough : (1000 : Int) < 2 ^ Limits.maxMaxUtilizationProbes := by decide
    omega
  obtain ⟨found, lower⟩ :=
    tightestCeiling_spec accepted fresh cap.2 Limits.maxMaxUtilizationProbes (by decide)
    (le_refl _) probes built.probed (fun permille start below => by omega)
    (Or.inl ⟨rfl, rfl⟩ : BestSoFar _ snapshot.policy.maxUtilizationPermille 1 _ 0)
  have start : startingCeiling snapshot (derivation snapshot) =
      tightestCeiling (makeProblem snapshot (derivation snapshot)) Limits.maxMaxUtilizationProbes 1
        snapshot.policy.maxUtilizationPermille 0 := by
    simp [startingCeiling, searchesCeiling, quiet, requested]
  rw [← start] at found lower
  constructor
  · intro zero
    exact lower _ cap.1 (le_refl _) (Or.inr zero)
  · intro short
    rcases found with zero | ⟨positive, within, feasible⟩
    · exact zero
    · have wide := certify_mono accepted fresh (by omega) within cap.2 feasible built.capped
      change fitsCap snapshot (derivation snapshot) = true at wide
      rw [wide] at short
      cases short

variable (weights : SupportedWeights snapshot) (options : SolveOptions)

include weights

include quiet in
/-- The search that finds no ceiling puts the shortage down to the cap or to the capacity. -/
theorem solveDerived_searched (requested : hasTerm snapshot.objective.terms .minimizeMaxUtilization = true)
    (short : fitsCap snapshot (derivation snapshot) = false) :
    (solveDerived snapshot (derivation snapshot) options).status =
      shortageUnderCap snapshot (derivation snapshot) := by
  have zero := (startingCeiling_zero_iff accepted quiet built requested).mpr short
  have searches : searchesCeiling snapshot (derivation snapshot) = true := by
    simp [searchesCeiling, quiet, requested]
  unfold fitsCap at short
  rw [solveDerived_supported weights, if_pos ⟨zero, searches⟩, searchRefusal, shortageUnderCap]
  simp only [built.uncapped, built.capped, short, Bool.not_false, Bool.and_true, Bool.and_eq_true,
    decide_eq_true_eq]
  split
  · rfl
  · rfl

include fits quiet in
/-- Every other call reports what the status block arrives at, unless a path that may be used is stale. -/
theorem solveDerived_block (starts : startingCeiling snapshot (derivation snapshot) ≠ 0) :
    (solveDerived snapshot (derivation snapshot) options).status.shortage =
        blockShortage snapshot (derivation snapshot) ∨
      (solveDerived snapshot (derivation snapshot) options).status = .conflictingInput ∧
        HasStaleEligible snapshot := by
  obtain ⟨nonneg, bounded⟩ := startingCeiling_range accepted (derivation snapshot)
  obtain ⟨permille, low, high, safe⟩ := constructed_safe accepted options nonneg bounded
  rw [solveDerived_constructs ⟨weights, starts⟩, quiet]
  rcases plan_reports accepted options fits nonneg bounded with same | conflicting
  · rw [same]
    exact Or.inl (verdictOf_shortage accepted safe low high built options)
  · exact Or.inr conflicting

end Calls

/-! The snapshot without the term. -/

def withoutMinMax (snapshot : FabricSnapshot) : FabricSnapshot :=
  { snapshot with
    objective := { snapshot.objective with
      terms := snapshot.objective.terms.filter fun term => decide (term.term ≠ .minimizeMaxUtilization) } }

theorem validateTerms_filter (keep : ObjectiveWeight → Bool) (terms : List ObjectiveWeight) :
    ∀ {seen fewer : List ObjectiveTerm}, fewer ⊆ seen → validateTerms seen terms = .ok () →
      validateTerms fewer (terms.filter keep) = .ok () := by
  induction terms with
  | nil =>
      intro seen fewer _ _
      rfl
  | cons term rest ih =>
      intro seen fewer subset valid
      rw [validateTerms] at valid
      simp only [check_bind_eq_ok, require_eq_ok] at valid
      obtain ⟨known, weight, fresh, later⟩ := valid
      rw [List.filter_cons]
      split
      · rw [validateTerms]
        simp only [check_bind_eq_ok, require_eq_ok]
        refine ⟨known, weight, ?_, ih (List.cons_subset_cons _ subset) later⟩
        rw [Bool.not_eq_true', List.contains_eq_mem, decide_eq_false_iff_not] at fresh ⊢
        exact fun inside => fresh (subset inside)
      · exact ih (fun other inside => List.mem_cons_of_mem _ (subset inside)) later

theorem withoutMinMax_accepted {snapshot : FabricSnapshot} (accepted : Accepted snapshot)
    (others : (withoutMinMax snapshot).objective.terms ≠ []) : Accepted (withoutMinMax snapshot) := by
  obtain ⟨⟨raw, canonical⟩, valid⟩ := accepted
  refine ⟨⟨{ raw with objective := (withoutMinMax snapshot).objective }, ?_⟩, ?_⟩
  · rw [withoutMinMax, ← canonical]
    rfl
  · rw [validateStructure_eq_ok] at valid ⊢
    obtain ⟨header, capacity, reservations, policy, objective, paths, demands⟩ := valid
    refine ⟨header, capacity, reservations, policy, ?_, paths, demands⟩
    unfold validateObjective at objective ⊢
    simp only [check_bind_eq_ok, require_eq_ok, decide_eq_true_eq] at objective ⊢
    obtain ⟨reference, provenance, -, few, terms⟩ := objective
    refine ⟨reference, provenance, ?_, (List.length_filter_le _ _).trans few,
      validateTerms_filter _ _ (List.Subset.refl _) terms⟩
    simpa using others

/-! What decides the classification does not depend on the objective. -/

section Plain

variable (snapshot : FabricSnapshot) (derived : Derivation)

theorem plain_certify (permille : Int) : certify (makeProblem (withoutMinMax snapshot) derived) permille =
    certify (makeProblem snapshot derived) permille := by
  unfold certify
  rfl

theorem plain_blockShortage :
    blockShortage (withoutMinMax snapshot) derived = blockShortage snapshot derived := by
  unfold blockShortage excludesFloor fitsCap shortageUnderCap
  rw [plain_certify, plain_certify]
  rfl

theorem plain_probed (probes : Nat) : ∀ low high : Int,
    probedCeilings (makeProblem (withoutMinMax snapshot) derived) probes low high =
      probedCeilings (makeProblem snapshot derived) probes low high := by
  induction probes with
  | zero =>
      intro low high
      rfl
  | succ probes ih =>
      intro low high
      rw [probedCeilings, probedCeilings]
      dsimp only
      rw [plain_certify, ih, ih]

variable {snapshot derived}

theorem plain_built (built : CertificatesBuilt snapshot derived) :
    CertificatesBuilt (withoutMinMax snapshot) derived := by
  refine ⟨?_, ?_, ?_⟩
  · intro mid probed
    rw [plain_probed] at probed
    rw [plain_certify]
    exact built.probed mid probed
  · rw [plain_certify]
    exact built.capped
  · rw [plain_certify]
    exact built.uncapped

end Plain

/-! The two calls. -/

/-- If one of the two calls proves an infeasibility then both report it, and a demand with a floor and
without a path is always reported as one. -/
structure ClassificationsAgree (snapshot : FabricSnapshot) (derived : Derivation) (options : SolveOptions) :
    Prop where
  same : ∀ outcome plain, solve snapshot options = .ok outcome →
    solve (withoutMinMax snapshot) options = .ok plain →
    (outcome.status.shortage ≠ none ∨ plain.status.shortage ≠ none) → outcome.status = plain.status
  stranded : ∀ demand ∈ derived.demands, demand.active = true → 0 < demand.floor →
    demand.eligiblePaths = [] →
    ∀ outcome, solve snapshot options = .ok outcome ∨ solve (withoutMinMax snapshot) options = .ok outcome →
      outcome.status = .infeasiblePathSet

/-- No floor is without a path, and the causes leave no room for two classifications. -/
structure OneCause (snapshot : FabricSnapshot) (derived : Derivation) : Prop where
  routed : starvedDemands derived = []
  cause : ¬ SupportedWeights (withoutMinMax snapshot) ∨
    (fitsCap snapshot derived = true ∧ excludesFloor snapshot derived = false) ∨
    (SupportedWeights snapshot ∧ ¬ HasStaleEligible snapshot ∧ (fitsCap snapshot derived = true ∨
      excludesFloor snapshot derived = false ∨ shortageUnderCap snapshot derived = .infeasiblePolicy))

/-- The statuses of the two calls, with the facts that decide them. -/
structure Calls (snapshot : FabricSnapshot) (derived : Derivation) (status plain : FeasibilityStatus) :
    Prop where
  unsupported : ¬ SupportedWeights snapshot → status = .unsupportedObjective
  searched : SupportedWeights snapshot → fitsCap snapshot derived = false →
    status = shortageUnderCap snapshot derived
  block : SupportedWeights snapshot → fitsCap snapshot derived = true →
    status.shortage = blockShortage snapshot derived ∨ status = .conflictingInput ∧
      HasStaleEligible snapshot
  plainUnsupported : ¬ SupportedWeights (withoutMinMax snapshot) → plain = .unsupportedObjective
  plainBlock : SupportedWeights (withoutMinMax snapshot) →
    plain.shortage = blockShortage snapshot derived ∨ plain = .conflictingInput ∧ HasStaleEligible snapshot

theorem solveDerived_calls {snapshot : FabricSnapshot} (accepted : Accepted snapshot)
    (fits : overflowingResource snapshot = none)
    (requested : hasTerm snapshot.objective.terms .minimizeMaxUtilization = true)
    (others : (withoutMinMax snapshot).objective.terms ≠ [])
    (quiet : reservationConflict (derivation snapshot) = false)
    (built : CertificatesBuilt snapshot (derivation snapshot)) (options : SolveOptions) :
    Calls snapshot (derivation snapshot) (solveDerived snapshot (derivation snapshot) options).status
      (solveDerived (withoutMinMax snapshot) (derivation snapshot) options).status := by
  have cap := accepted.policy_cap
  have plainAccepted := withoutMinMax_accepted accepted others
  have removed : hasTerm (withoutMinMax snapshot).objective.terms .minimizeMaxUtilization = false := by
    have absent : (withoutMinMax snapshot).objective.terms.find? (fun entry =>
        entry.term == .minimizeMaxUtilization) = none := by
      rw [List.find?_eq_none]
      intro entry listed
      simpa [withoutMinMax] using (List.mem_filter.mp listed).2
    rw [hasTerm, weightOf, absent]
    rfl
  have plainStarts : startingCeiling (withoutMinMax snapshot) (derivation snapshot) ≠ 0 := by
    unfold startingCeiling searchesCeiling
    rw [removed, Bool.and_false, if_neg (by decide)]
    change snapshot.policy.maxUtilizationPermille ≠ 0
    omega
  refine ⟨?_, ?_, ?_, ?_, ?_⟩
  · intro weights
    exact (solveDerived_unsupported weights _ options).1
  · intro weights short
    exact solveDerived_searched accepted quiet built weights options requested short
  · intro weights roomy
    refine solveDerived_block accepted fits quiet built weights options ?_
    rw [ne_eq, startingCeiling_zero_iff accepted quiet built requested, roomy]
    decide
  · intro weights
    exact (solveDerived_unsupported weights _ options).1
  · intro weights
    have block := @solveDerived_block (withoutMinMax snapshot) plainAccepted fits quiet
      (plain_built built) weights options plainStarts
    rw [show derivation (withoutMinMax snapshot) = derivation snapshot from rfl,
      plain_blockShortage] at block
    exact block

theorem SupportedWeights.plain {snapshot : FabricSnapshot} (weights : SupportedWeights snapshot) :
    SupportedWeights (withoutMinMax snapshot) :=
  fun term listed => weights term (List.mem_filter.mp listed).1

section Compared

variable {snapshot : FabricSnapshot} {derived : Derivation} {status plain : FeasibilityStatus}
variable (calls : Calls snapshot derived status plain)

include calls

/-- Where there is one cause, a proof of infeasibility is reported by both. -/
theorem Calls.agree (one : OneCause snapshot derived)
    (proved : status.shortage ≠ none ∨ plain.shortage ≠ none) : status = plain := by
  have both : ∀ cause, status.shortage = some cause → plain.shortage = some cause → status = plain :=
    fun cause first second =>
      (FeasibilityStatus.shortage_eq first).trans (FeasibilityStatus.shortage_eq second).symm
  rcases one.cause with unsupported | ⟨roomy, included⟩ | ⟨weights, current, causes⟩
  · rw [calls.plainUnsupported unsupported, calls.unsupported fun weights => unsupported weights.plain]
  · -- Neither call has anything to prove.
    have nothing : blockShortage snapshot derived = none := by
      rw [blockShortage, included, roomy]
      rfl
    exfalso
    rcases proved with first | second
    · apply first
      by_cases weights : SupportedWeights snapshot
      · rcases calls.block weights roomy with block | ⟨conflicting, -⟩
        · exact block.trans nothing
        · rw [conflicting]
          rfl
      · rw [calls.unsupported weights]
        rfl
    · apply second
      by_cases weights : SupportedWeights (withoutMinMax snapshot)
      · rcases calls.plainBlock weights with block | ⟨conflicting, -⟩
        · exact block.trans nothing
        · rw [conflicting]
          rfl
      · rw [calls.plainUnsupported weights]
        rfl
  · have plainBlock := (calls.plainBlock weights.plain).resolve_right fun conflicting =>
      current conflicting.2
    cases roomy : fitsCap snapshot derived with
    | true =>
        have block := (calls.block weights roomy).resolve_right fun conflicting => current conflicting.2
        rw [block, plainBlock, or_self] at proved
        obtain ⟨cause, found⟩ := Option.ne_none_iff_exists'.mp proved
        exact both cause (block.trans found) (plainBlock.trans found)
    | false =>
        have searched := calls.searched weights roomy
        rw [roomy] at causes
        rw [searched]
        refine (FeasibilityStatus.shortage_eq ?_).symm
        rw [plainBlock, blockShortage, roomy, one.routed]
        rcases causes with fits | included | policy
        · cases fits
        · rw [included]
          rfl
        · rw [policy]
          split
          · rfl
          · rfl

/-- Two calls that agree have one cause to go by. -/
theorem Calls.one_cause (current : ¬ HasStaleEligible snapshot)
    (stranded : starvedDemands derived ≠ [] → status = .infeasiblePathSet)
    (same : status.shortage ≠ none ∨ plain.shortage ≠ none → status = plain) :
    OneCause snapshot derived := by
  have shortage : shortageUnderCap snapshot derived = .infeasiblePolicy ∨
      shortageUnderCap snapshot derived = .infeasibleCapacity := by
    unfold shortageUnderCap
    split
    · exact Or.inl rfl
    · exact Or.inr rfl
  have routed : starvedDemands derived = [] := by
    by_contra starved
    have reported := stranded starved
    by_cases weights : SupportedWeights snapshot
    · cases roomy : fitsCap snapshot derived with
      | true =>
          have block := (calls.block weights roomy).resolve_right fun conflicting => current conflicting.2
          rw [reported, blockShortage, roomy] at block
          split at block
          · cases block
          · cases block
      | false =>
          have searched := calls.searched weights roomy
          rw [reported] at searched
          rcases shortage with policy | capacity
          · rw [policy] at searched
            cases searched
          · rw [capacity] at searched
            cases searched
    · have unsupported := calls.unsupported weights
      rw [reported] at unsupported
      cases unsupported
  refine ⟨routed, ?_⟩
  by_contra causes
  rw [not_or, not_not, not_or] at causes
  obtain ⟨weights, shortfall, more⟩ := causes
  have plainBlock := (calls.plainBlock weights).resolve_right fun conflicting => current conflicting.2
  by_cases supported : SupportedWeights snapshot
  · have facts : fitsCap snapshot derived = false ∧ excludesFloor snapshot derived = true ∧
        shortageUnderCap snapshot derived ≠ .infeasiblePolicy := by
      refine ⟨?_, ?_, ?_⟩
      · rw [← Bool.not_eq_true]
        exact fun roomy => more ⟨supported, current, Or.inl roomy⟩
      · rw [← Bool.not_eq_false]
        exact fun included => more ⟨supported, current, Or.inr (Or.inl included)⟩
      · exact fun policy => more ⟨supported, current, Or.inr (Or.inr policy)⟩
    obtain ⟨short, excluded, capacity⟩ := facts
    have searched := calls.searched supported short
    rw [shortage.resolve_left capacity] at searched
    rw [blockShortage, if_pos excluded] at plainBlock
    have equal := same (Or.inr (by rw [plainBlock]; simp))
    rw [searched, FeasibilityStatus.shortage_eq plainBlock] at equal
    cases equal
  · -- The weight of the removed term is refused, and without it the shortage is proved.
    have unsupported := calls.unsupported supported
    have proved : plain.shortage ≠ none := by
      rw [plainBlock, blockShortage, routed]
      split
      · simp
      · rename_i included
        rw [if_neg fun roomy => shortfall ⟨roomy, by simpa using included⟩]
        simp
    have equal := same (Or.inr proved)
    rw [unsupported] at equal
    rw [← equal] at proved
    exact proved rfl

end Compared

def gaugedFabric (demands : List Demand) : FabricSnapshot :=
  { linkFabric with
    demands := demands
    objective := { linkFabric.objective with
      terms := [{ term := .satisfyMinimums, weight := 1 },
        { term := .minimizeMaxUtilization, weight := 1 }] } }

/-- Policy admits the tenant of the second demand only, and the spare path, that neither may use, is stale.
-/
def spareFabric : FabricSnapshot :=
  { gaugedFabric [{ linkDemand with allowedPaths := [named "path-1"] },
      { linkDemand with
        id := named "demand-2"
        tenant := named "tenant-2"
        allowedPaths := [named "path-1"] }] with
    policy := { linkFabric.policy with allowedTenants := [named "tenant-2"] }
    paths := [linkPath,
      { linkPath with
        id := named "path-2"
        authority := ⟨named "path-2", ⟨2⟩⟩ }] }

/-- A second demand that may not use the only path. -/
def strandedFabric : FabricSnapshot :=
  gaugedFabric [linkDemand, { linkDemand with
    id := named "demand-2"
    forbiddenPaths := [named "path-1"] }]

end TrafficFabric
