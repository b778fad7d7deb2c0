import TrafficFabric.CertificateSoundness
import TrafficFabric.SolverSafety

set_option autoImplicit false

/- Which certificate an infeasibility verdict rests on. The status block at the end of
`solve` asks for one that was built; the early return of the utilisation search does not. -/
namespace TrafficFabric

/-! Certificates read only what no move changes. -/

section Congruence

variable {left right : Problem} {snapshot : FabricSnapshot} {derived : Derivation}
variable (first : left.BuiltFrom snapshot derived) (second : right.BuiltFrom snapshot derived)

include first second

theorem ceilingsAt_congr (permille : Int) : ceilingsAt left permille = ceilingsAt right permille := by
  apply OrdMap.ext_find?
  intro id
  have same := (first.resources id).trans (second.resources id).symm
  have lifted := congrArg (Option.map fun resource : ResourceState =>
    (recomputeCeiling resource permille).ceiling) same
  rw [Option.map_map, Option.map_map] at lifted
  rw [ceilingsAt, ceilingsAt, OrdMap.find?_mapValues, OrdMap.find?_mapValues]
  -- A ceiling reads only the fixed part of the state.
  exact lifted

theorem resourceKeys_congr : left.resources.keys = right.resources.keys := by
  have same := congrArg OrdMap.keys (ceilingsAt_congr first second 0)
  simpa [ceilingsAt] using same

theorem certify_congr (permille : Int) : certify left permille = certify right permille := by
  have derivations : left.derivation = right.derivation :=
    first.derivation.trans second.derivation.symm
  have keys := resourceKeys_congr first second
  have sizes : left.resources.size = right.resources.size := by
    have lengths := congrArg List.length keys
    rw [OrdMap.keys, OrdMap.keys, List.length_map, List.length_map] at lengths
    exact lengths
  have lookup := first.same_pathOf second
  have budget : left.nodeBudget = right.nodeBudget := by
    simp only [Problem.nodeBudget, derivations, sizes]
  have nodes : left.nodes = right.nodes := by
    simp only [Problem.nodes, derivations, keys]
  have paths : pathArcs left right.nodes = pathArcs right right.nodes := by
    funext path
    simp only [pathArcs, lookup]
  have counted : left.countedArcs = right.countedArcs := by
    simp only [Problem.countedArcs, derivations, nodes, paths]
  have arcs : left.arcs permille = right.arcs permille := by
    simp only [Problem.arcs, counted, ceilingsAt_congr first second permille, nodes]
  simp only [certify, derivations, budget, counted, arcs, nodes]

end Congruence

/-! The search. -/

/-- A built certificate proves that the floors do not fit under the ceiling. -/
def ProvenInfeasible (problem : Problem) (permille : Int) : Bool :=
  (certify problem permille).built && !(certify problem permille).feasible

/-- The ceilings the bisection of an interval probes as long as it only moves up. -/
def upwardProbes : Nat → Int → Int → List Int
  | 0, _, _ => []
  | probes + 1, low, high =>
      if low ≤ high then
        let mid := low + (high - low).tdiv 2
        mid :: upwardProbes probes (mid + 1) high
      else []

/-- The search comes back with nothing exactly when its first probe that proves no
infeasibility, if there is one, could not be built. -/
theorem tightestCeiling_eq_zero (problem : Problem) (probes : Nat) : ∀ low high : Int, 0 < low →
    (tightestCeiling problem probes low high 0 = 0 ↔
      ∀ permille, (upwardProbes probes low high).find? (fun permille =>
        !ProvenInfeasible problem permille) = some permille →
        (certify problem permille).built = false) := by
  induction probes with
  | zero =>
      intro low high positive
      simp [tightestCeiling, upwardProbes]
  | succ probes ih =>
      intro low high positive
      rw [tightestCeiling, upwardProbes]
      by_cases below : low ≤ high
      · rw [if_pos below, if_pos below]
        have half : (high - low).tdiv 2 = (high - low) / 2 := Int.tdiv_eq_ediv_of_nonneg (by omega)
        dsimp only
        rw [half, List.find?_cons]
        generalize middle : low + (high - low) / 2 = mid
        cases built : (certify problem mid).built with
        | false => simp [ProvenInfeasible, built]
        | true =>
            cases feasible : (certify problem mid).feasible with
            | true =>
                have found := tightestCeiling_range problem probes low (mid - 1) mid
                have nonzero : (if mid = 1 then mid
                    else tightestCeiling problem probes low (mid - 1) mid) ≠ 0 := by
                  split <;> omega
                simp [ProvenInfeasible, built, feasible, nonzero]
            | false =>
                have later := ih (mid + 1) high (by omega)
                simpa [ProvenInfeasible, built, feasible] using later
      · rw [if_neg below, if_neg below]
        simp

/-! Verdicts. -/

/-- The two statuses that report a proven shortfall: of capacity, or of what the policy's
utilisation cap leaves of it. -/
def CapacityVerdict (snapshot : FabricSnapshot) (outcome : SolveOutcome) : Prop :=
  outcome.status = .infeasibleCapacity ∨
    outcome.status = .infeasiblePolicy ∧ outcome.summary = capSummary snapshot.policy

/-- Such a verdict is a proof: no whole-path rates carry the floors under the policy cap,
and a certificate that was built says so. -/
def VerdictProved (snapshot : FabricSnapshot) (derived : Derivation) (outcome : SolveOutcome) :
    Prop :=
  CapacityVerdict snapshot outcome →
    (¬ ∃ rate, CarriesFloors (makeProblem snapshot derived)
      snapshot.policy.maxUtilizationPermille rate) ∧
    ProvenInfeasible (makeProblem snapshot derived) snapshot.policy.maxUtilizationPermille = true

/-- The utilisation search does not run, or is not stopped by a certificate that could not
be built, or the certificate under the policy cap settles the question anyway. -/
def SearchDecided (snapshot : FabricSnapshot) (derived : Derivation) : Prop :=
  (∃ term ∈ snapshot.objective.terms, term.weight < 0) ∨
  reservationConflict derived = true ∨
  hasTerm snapshot.objective.terms .minimizeMaxUtilization = false ∨
  ProvenInfeasible (makeProblem snapshot derived) snapshot.policy.maxUtilizationPermille = true ∨
  ∃ permille, (upwardProbes Limits.maxMaxUtilizationProbes 1
      snapshot.policy.maxUtilizationPermille).find? (fun permille =>
        !ProvenInfeasible (makeProblem snapshot derived) permille) = some permille ∧
    (certify (makeProblem snapshot derived) permille).built = true

theorem provenInfeasible_congr {left right : Problem} {snapshot : FabricSnapshot}
    {derived : Derivation} (first : left.BuiltFrom snapshot derived)
    (second : right.BuiltFrom snapshot derived) (permille : Int) :
    ProvenInfeasible left permille = ProvenInfeasible right permille := by
  unfold ProvenInfeasible
  rw [certify_congr first second permille]

theorem blocked_ne_capSummary (policy : Policy) :
    text "the active policy excludes at least one demand that declares a hard floor" ≠
      capSummary policy := by
  intro same
  have heads := congrArg (List.take 5) same
  unfold capSummary at heads
  rw [List.append_assoc, List.take_append_of_le_length (by decide)] at heads
  revert heads
  decide

/-- The status block reports a proven shortfall only on a built certificate. -/
theorem verdictOf_proved (policy : Policy) (options : SolveOptions) (problem : Problem)
    (conflict : Bool)
    (reported : (verdictOf policy options problem conflict).status = .infeasibleCapacity ∨
      (verdictOf policy options problem conflict).status = .infeasiblePolicy ∧
        (verdictOf policy options problem conflict).summary = capSummary policy) :
    ProvenInfeasible problem policy.maxUtilizationPermille = true := by
  unfold verdictOf at reported
  dsimp only at reported
  split at reported
  · rcases reported with status | ⟨status, -⟩ <;> cases status
  · split at reported
    · rcases reported with status | ⟨status, -⟩ <;> cases status
    · split at reported
      · rcases reported with status | ⟨-, summary⟩
        · cases status
        · exact absurd summary (blocked_ne_capSummary policy)
      · split at reported
        · assumption
        · split at reported
          · rcases reported with status | ⟨status, -⟩ <;> cases status
          · rcases reported with status | ⟨status, -⟩ <;> cases status

section Verdicts

variable {snapshot : FabricSnapshot} (accepted : Accepted snapshot)

include accepted

/-- A certificate that proves infeasibility under the cap rules the rates out. -/
theorem no_rates_of_proven {problem : Problem} (fits : overflowingResource snapshot = none)
    (built : problem.BuiltFrom snapshot (derivation snapshot)) {permille : Int}
    (proven : ProvenInfeasible problem permille = true) :
    ¬ ∃ rate, CarriesFloors problem permille rate := by
  unfold ProvenInfeasible at proven
  rw [Bool.and_eq_true, Bool.not_eq_true'] at proven
  exact (certify_sound accepted ((derive_eq_ok accepted _).mpr ⟨fits, rfl⟩) built permille).1
    proven.1 proven.2

theorem plan_proved (fits : overflowingResource snapshot = none) (options : SolveOptions)
    {ceiling : Int} (nonneg : 0 ≤ ceiling)
    (bounded : ceiling ≤ snapshot.policy.maxUtilizationPermille) (conflict : Bool) :
    VerdictProved snapshot (derivation snapshot)
      (plan snapshot (derivation snapshot) options ceiling conflict) := by
  obtain ⟨permille, -, -, safe⟩ := constructed_safe accepted options nonneg bounded
  have fresh := makeProblem_builtFrom snapshot (derivation snapshot)
  intro reported
  have proven : ProvenInfeasible (makeProblem snapshot (derivation snapshot))
      snapshot.policy.maxUtilizationPermille = true := by
    rw [← provenInfeasible_congr safe.consistent.built fresh]
    unfold CapacityVerdict plan conclude at reported
    dsimp only at reported
    split at reported
    · exact verdictOf_proved snapshot.policy options _ conflict reported
    · rcases reported with status | ⟨status, -⟩ <;> cases status
  exact ⟨no_rates_of_proven accepted fits fresh proven, proven⟩

end Verdicts

theorem solve_proved_iff {snapshot : FabricSnapshot} {options : SolveOptions} {derived : Derivation}
    {outcome : SolveOutcome} (accepted : Accepted snapshot) (budget : 0 < options.maxIterations)
    (derives : derive snapshot = .ok derived) (solved : solve snapshot options = .ok outcome) :
    VerdictProved snapshot derived outcome ↔ SearchDecided snapshot derived := by
  obtain ⟨fits, rfl⟩ := (derive_eq_ok accepted derived).mp derives
  have cap := accepted.policy_cap
  have fresh := makeProblem_builtFrom snapshot (derivation snapshot)
  have value : outcome = solveDerived snapshot (derivation snapshot) options := by
    unfold solve at solved
    rw [if_neg (by omega), derives] at solved
    exact (Except.ok.inj solved).symm
  rw [value]
  unfold solveDerived
  split
  · rename_i term found
    -- A negative weight is refused before any certificate is asked for.
    have member := List.mem_of_find?_eq_some found
    have negative : term.weight < 0 := by simpa using List.find?_some found
    refine ⟨fun _ => Or.inl ⟨term, member, negative⟩, fun _ reported => ?_⟩
    rcases reported with status | ⟨status, -⟩ <;> cases status
  · rename_i weights
    have nonnegative : ¬ ∃ term ∈ snapshot.objective.terms, term.weight < 0 := by
      rintro ⟨term, member, negative⟩
      have quiet := List.find?_eq_none.mp weights term member
      simp [negative] at quiet
    dsimp only
    by_cases searched : (!reservationConflict (derivation snapshot) &&
        hasTerm snapshot.objective.terms .minimizeMaxUtilization) = true
    · rw [if_pos searched]
      rw [Bool.and_eq_true, Bool.not_eq_true'] at searched
      have zero := tightestCeiling_eq_zero (makeProblem snapshot (derivation snapshot))
        Limits.maxMaxUtilizationProbes 1 snapshot.policy.maxUtilizationPermille (by decide)
      have range := tightestCeiling_range (makeProblem snapshot (derivation snapshot))
        Limits.maxMaxUtilizationProbes 1 snapshot.policy.maxUtilizationPermille 0
      split
      · rename_i nothing
        have stopped := zero.mp nothing
        -- Either the cap's own certificate is a proof, or the report rests on nothing.
        have refused : VerdictProved snapshot (derivation snapshot) (searchRefusal snapshot
            (derivation snapshot) (makeProblem snapshot (derivation snapshot))) ↔
            ProvenInfeasible (makeProblem snapshot (derivation snapshot))
              snapshot.policy.maxUtilizationPermille = true := by
          constructor
          · intro proved
            by_cases proven : ProvenInfeasible (makeProblem snapshot (derivation snapshot))
                snapshot.policy.maxUtilizationPermille = true
            · exact proven
            · apply (proved _).2
              apply Or.inl
              have cause : (decide (snapshot.policy.maxUtilizationPermille < 1000) &&
                  (certify (makeProblem snapshot (derivation snapshot)) 1000).built &&
                  (certify (makeProblem snapshot (derivation snapshot)) 1000).feasible &&
                  (certify (makeProblem snapshot (derivation snapshot))
                    snapshot.policy.maxUtilizationPermille).built &&
                  !(certify (makeProblem snapshot (derivation snapshot))
                    snapshot.policy.maxUtilizationPermille).feasible) = false := by
                unfold ProvenInfeasible at proven
                rw [Bool.and_assoc, Bool.eq_false_of_not_eq_true proven, Bool.and_false]
              unfold searchRefusal
              simp only [cause, Bool.false_eq_true, ↓reduceIte]
              rfl
          · intro proven _
            exact ⟨no_rates_of_proven accepted fits fresh proven, proven⟩
        rw [refused]
        constructor
        · intro proven
          exact Or.inr (Or.inr (Or.inr (Or.inl proven)))
        · rintro (negative | conflict | unasked | proven | ⟨permille, found, built⟩)
          · exact absurd negative nonnegative
          · rw [searched.1] at conflict
            cases conflict
          · rw [searched.2] at unasked
            cases unasked
          · exact proven
          · rw [stopped permille found] at built
            cases built
      · rename_i something
        have proved := plan_proved accepted fits options
          (by omega : 0 ≤ tightestCeiling (makeProblem snapshot (derivation snapshot))
            Limits.maxMaxUtilizationProbes 1 snapshot.policy.maxUtilizationPermille 0)
          (by omega) (reservationConflict (derivation snapshot))
        refine ⟨fun _ => Or.inr (Or.inr (Or.inr (Or.inr ?_))), fun _ => proved⟩
        have moving := (not_congr zero).mp something
        push Not at moving
        obtain ⟨permille, found, built⟩ := moving
        exact ⟨permille, found, by simpa using built⟩
    · rw [if_neg searched]
      refine ⟨fun _ => ?_, fun _ => plan_proved accepted fits options (by omega) (le_refl _) _⟩
      rw [Bool.and_eq_true, Bool.not_eq_true', not_and_or] at searched
      rcases searched with conflict | unasked
      · exact Or.inr (Or.inl (by simpa using conflict))
      · exact Or.inr (Or.inr (Or.inl (by simpa using unasked)))

/-- The mesh fabric with floors of 105 each, for which its three links have ten units too few. -/
def shortMeshFabric : FabricSnapshot :=
  { meshFabric with
    demands := meshFabric.demands.map fun demand =>
      { demand with
        minimumBandwidth := 105
        desiredBandwidth := 105
        maximumBandwidth := 120 }
    objective := { meshFabric.objective with
      terms := [{ term := .minimizeMaxUtilization, weight := 1 }] } }

theorem shortMeshFabric_accepted : Accepted shortMeshFabric :=
  accepted_of_checks shortMeshFabric (by decide +kernel) (by decide +kernel)

/-- The utilisation search runs, and the shortfall it reports is one: no rates carry both floors. -/
theorem solve_proved_iff_shortMeshFabric : ∃ outcome, solve shortMeshFabric {} = .ok outcome ∧
    hasTerm shortMeshFabric.objective.terms .minimizeMaxUtilization = true ∧
    outcome.status = .infeasibleCapacity ∧
    ¬ ∃ rate, CarriesFloors (makeProblem shortMeshFabric (derivation shortMeshFabric)) 1000 rate := by
  have derives : derive shortMeshFabric = .ok (derivation shortMeshFabric) :=
    (derive_eq_ok shortMeshFabric_accepted _).mpr ⟨by decide +kernel, rfl⟩
  have solved : solve shortMeshFabric {} =
      .ok (solveDerived shortMeshFabric (derivation shortMeshFabric) {}) :=
    solve_of_derives derives (by decide)
  have status : (solveDerived shortMeshFabric (derivation shortMeshFabric) {}).status =
      .infeasibleCapacity := by
    decide +kernel
  have decided : SearchDecided shortMeshFabric (derivation shortMeshFabric) :=
    Or.inr (Or.inr (Or.inr (Or.inl (by decide +kernel))))
  have proved := (solve_proved_iff shortMeshFabric_accepted (by decide) derives solved).mpr decided
  exact ⟨_, solved, by decide, status, (proved (Or.inl status)).1⟩

/-! A fabric too large for the certificate. -/

/-- Fixed-width decimal numerals, which sort as the numbers do. -/
def numeral : Nat → Nat → Text
  | 0, _ => []
  | width + 1, number => (48 + number / 10 ^ width).toUInt8 :: numeral width (number % 10 ^ width)

theorem digit_toNat {digit : Nat} (small : digit < 10) : (48 + digit).toUInt8.toNat = 48 + digit := by
  rw [Nat.toUInt8_eq, UInt8.toNat_ofNat']
  omega

theorem numeral_lt (width : Nat) : ∀ first second : Nat, first < second → second < 10 ^ width →
    numeral width first < numeral width second := by
  induction width with
  | zero =>
      intro first second below bound
      rw [pow_zero] at bound
      omega
  | succ width ih =>
      intro first second below bound
      have positive : 0 < 10 ^ width := Nat.pow_pos (by decide)
      have digit : second / 10 ^ width < 10 := by
        rw [Nat.div_lt_iff_lt_mul positive, Nat.mul_comm, ← pow_succ]
        exact bound
      have order : first / 10 ^ width ≤ second / 10 ^ width := Nat.div_le_div_right below.le
      rw [numeral, numeral, List.cons_lt_cons_iff]
      by_cases same : first / 10 ^ width = second / 10 ^ width
      · refine Or.inr ⟨by rw [same], ih _ _ ?_ (Nat.mod_lt _ positive)⟩
        have left := Nat.div_add_mod first (10 ^ width)
        have right := Nat.div_add_mod second (10 ^ width)
        rw [same] at left
        omega
      · apply Or.inl
        rw [UInt8.lt_iff_toNat_lt, digit_toNat (by omega), digit_toNat digit]
        omega

theorem numeral_valid {number : Nat} (bound : number < 10 ^ 4) :
    isValidName (numeral 4 number) = true := by
  have digits : ∀ digit < 10, isNameChar (48 + digit).toUInt8 = true ∧
      isSeparator (48 + digit).toUInt8 = false := by decide
  have first := digits (number / 10 ^ 3) (by omega)
  have second := digits (number % 10 ^ 3 / 10 ^ 2) (by omega)
  have third := digits (number % 10 ^ 3 % 10 ^ 2 / 10 ^ 1) (by omega)
  have fourth := digits (number % 10 ^ 3 % 10 ^ 2 % 10 ^ 1 / 10 ^ 0) (by omega)
  unfold isValidName
  simp only [numeral, List.all_cons, List.all_nil, first.1, second.1, third.1, fourth.1,
    List.head?_cons, Option.any_some, first.2, List.getLast?_cons_cons, List.getLast?_singleton,
    fourth.2, List.isEmpty_cons, List.length_cons, List.length_nil, Bool.and_true, Bool.not_false]
  have dot : text "." = [46] := by decide
  have dots : text ".." = [46, 46] := by decide
  rw [dot, dots]
  simp [Limits.maxNameLength]

def numbered {kind : IdKind} (number : Nat) : Id kind :=
  (Id.parse (numeral 4 number)).getD Id.none

theorem numbered_value {kind : IdKind} {number : Nat} (bound : number < 10 ^ 4) :
    (numbered number : Id kind).value = numeral 4 number := by
  simp [numbered, Id.parse, numeral_valid bound]

theorem numbered_strict {kind : IdKind} {size : Nat} (bound : size ≤ 10 ^ 4) :
    ((List.range size).map (fun number => (numbered number : Id kind))).Pairwise (· < ·) := by
  rw [List.pairwise_map]
  have order : (List.range size).Pairwise (fun first second => first < second ∧ second < size) := by
    rw [List.pairwise_iff_getElem]
    intro first second firstInside secondInside below
    rw [List.length_range] at firstInside secondInside
    rw [List.getElem_range, List.getElem_range]
    exact ⟨below, secondInside⟩
  apply order.imp
  intro first second both
  change (numbered first : Id kind).value < (numbered second : Id kind).value
  rw [numbered_value (by omega), numbered_value (by omega)]
  exact numeral_lt 4 first second both.1 (by omega)

theorem numbered_valid {kind : IdKind} {number : Nat} (bound : number < 10 ^ 4) :
    (numbered number : Id kind).valid = true := by
  rw [Id.valid, numbered_value bound]
  rfl

def gridResource : FabricResource := { linkResource with usableCapacity := 4000000 }

def gridPath (number : Nat) : CandidatePath :=
  { linkPath with
    id := numbered number
    authority := ⟨numbered number, Gen.first⟩ }

def gridDemand (number : Nat) : Demand :=
  { linkDemand with
    id := numbered number
    minimumBandwidth := 1
    maximumBandwidth := 2000 }

/-- Every demand may use every path, and all paths cross one resource. -/
def gridFabric (size : Nat) : FabricSnapshot :=
  { linkFabric with
    capacity := { linkFabric.capacity with resources := [gridResource] }
    demands := (List.range size).map gridDemand
    paths := (List.range size).map gridPath
    objective := { linkFabric.objective with
      terms := [{ term := .minimizeMaxUtilization, weight := 1 }] } }

theorem gridFabric_canonical {size : Nat} (bound : size ≤ 10 ^ 4) :
    canonicalize (gridFabric size) = gridFabric size := by
  have demands : stableSort Demand.id (((List.range size).map gridDemand).map canonicalizeDemand) =
      (List.range size).map gridDemand := by
    have fixed : ((List.range size).map gridDemand).map canonicalizeDemand =
        (List.range size).map gridDemand := by
      rw [List.map_map]
      rfl
    rw [fixed]
    apply stableSort_eq_self
    have strict : ((List.range size).map (fun number => (numbered number : DemandId))).Pairwise
        (· < ·) := numbered_strict bound
    rw [List.pairwise_map] at strict ⊢
    exact strict.imp le_of_lt
  have paths : stableSort (fun path => path.id)
      (((List.range size).map gridPath).map canonicalizePath) = (List.range size).map gridPath := by
    have fixed : ((List.range size).map gridPath).map canonicalizePath =
        (List.range size).map gridPath := by
      rw [List.map_map]
      rfl
    rw [fixed]
    apply stableSort_eq_self
    have strict : ((List.range size).map (fun number => (numbered number : PathId))).Pairwise
        (· < ·) := numbered_strict bound
    rw [List.pairwise_map] at strict ⊢
    exact strict.imp le_of_lt
  unfold canonicalize gridFabric
  dsimp only
  rw [demands, paths]
  rfl

theorem gridFabric_accepted {size : Nat} (bound : size ≤ Limits.maxDemands) :
    Accepted (gridFabric size) := by
  have limits : Limits.maxDemands ≤ 10 ^ 4 ∧ Limits.maxDemands ≤ Limits.maxTotalCandidatePaths ∧
      Limits.maxDemands ≤ Limits.maxPathsPerDemand * Limits.maxDemands := by decide
  have distinctDemands : adjacentFind (stableSort id ((List.range size).map
      (fun number => (numbered number : DemandId)))) = false := by
    have strict : ((List.range size).map (fun number => (numbered number : DemandId))).Pairwise
        (· < ·) := numbered_strict (by omega)
    rw [stableSort_eq_self id _ (strict.imp le_of_lt)]
    exact adjacentFind_of_strict _ strict
  have distinctPaths : adjacentFind (stableSort id ((List.range size).map
      (fun number => (numbered number : PathId)))) = false := by
    have strict : ((List.range size).map (fun number => (numbered number : PathId))).Pairwise
        (· < ·) := numbered_strict (by omega)
    rw [stableSort_eq_self id _ (strict.imp le_of_lt)]
    exact adjacentFind_of_strict _ strict
  refine ⟨⟨_, gridFabric_canonical (by omega)⟩, ?_⟩
  rw [validateStructure_eq_ok]
  have capacity : validateCapacity (gridFabric 0) = .ok () := by decide +kernel
  have reservations : validateReservations (gridFabric 0) = .ok () := by decide +kernel
  have policy : validatePolicy (gridFabric 0).policy = .ok () := by decide +kernel
  have objective : validateObjective (gridFabric 0).objective = .ok () := by decide +kernel
  have header : validateHeader (gridFabric 0) = .ok () := by decide +kernel
  refine ⟨?_, capacity, reservations, policy, objective, ?_, ?_⟩
  · simp only [validateHeader, check_bind_eq_ok, require_eq_ok, decide_eq_true_eq] at header ⊢
    obtain ⟨epoch, topology, link, path, domain, provenance, set, -, -⟩ := header
    refine ⟨epoch, topology, link, path, domain, provenance, set, ?_, ?_⟩
    · simpa [gridFabric] using bound
    · simp only [gridFabric, List.length_map, List.length_range]
      omega
  · have template : validatePath (gridFabric 0) (gridPath 0) = .ok () := by decide +kernel
    simp only [validatePaths, check_bind_eq_ok, checkAll_eq_ok, requireDistinct, require_eq_ok]
    refine ⟨?_, ?_, ?_⟩
    · intro path member
      obtain ⟨number, inside, rfl⟩ := List.mem_map.mp member
      have valid : (numbered number : PathId).valid = true :=
        numbered_valid (by have small := List.mem_range.mp inside; omega)
      simp only [validatePath, check_bind_eq_ok, require_eq_ok] at template ⊢
      obtain ⟨-, generation, -, -, rest⟩ := template
      refine ⟨valid, generation, ?_, ?_, rest⟩
      · simp only [gridPath, Ref.valid, valid]
        decide
      · simp [gridPath]
    · have ids : (gridFabric size).paths.map (fun path => path.id) =
          (List.range size).map (fun number => (numbered number : PathId)) := by
        simp [gridFabric, gridPath, Function.comp_def]
      rw [ids, distinctPaths]
      rfl
    · intro entry member
      have few := pathsPerSet_le _ entry member
      simp only [gridFabric, List.length_map, List.length_range] at few
      rw [decide_eq_true_eq]
      omega
  · have template : validateDemand (gridFabric 0) (gridDemand 0) = .ok () := by decide +kernel
    simp only [validateDemands, check_bind_eq_ok, checkAll_eq_ok, requireDistinct, require_eq_ok]
    constructor
    · intro demand member
      obtain ⟨number, inside, rfl⟩ := List.mem_map.mp member
      have valid : (numbered number : DemandId).valid = true :=
        numbered_valid (by have small := List.mem_range.mp inside; omega)
      simp only [validateDemand, check_bind_eq_ok, require_eq_ok] at template ⊢
      exact ⟨valid, template.2⟩
    · have ids : (gridFabric size).demands.map Demand.id =
          (List.range size).map (fun number => (numbered number : DemandId)) := by
        simp [gridFabric, gridDemand, Function.comp_def]
      rw [ids, distinctDemands]
      rfl

theorem certify_unbuilt {problem : Problem}
    (exceeded : Limits.maxCertificateEdges < problem.countedArcs.length) (permille : Int) :
    (certify problem permille).built = false := by
  have routed : (routedDemands problem.derivation).isEmpty = false := by
    cases shape : routedDemands problem.derivation with
    | nil =>
        simp [Problem.countedArcs, shape, usedPaths, sortUnique, stableSort] at exceeded
    | cons first rest => rfl
  unfold certify
  dsimp only
  rw [routed, if_neg (by decide)]
  split
  · rfl
  · rfl

section Grid

variable {size : Nat} (positive : 0 < size) (number : Nat)

theorem gridDemand_eligible :
    (derivedDemand (gridFabric size) (gridDemand number)).eligiblePaths.length = size := by
  have active : (gridDemand number).effective.covers (gridFabric size).evaluationTick = true := by
    change linkDemand.effective.covers linkFabric.evaluationTick = true
    decide
  have all : eligibleSorted (gridDemand number) (planningPaths (gridFabric size)) =
      stableSort pathKey (planningPaths (gridFabric size)) := by
    unfold eligibleSorted
    congr 1
    apply List.filter_eq_self.mpr
    intro path member
    obtain ⟨candidate, inside, rfl⟩ := List.mem_map.mp member
    obtain ⟨other, -, rfl⟩ := List.mem_map.mp inside
    have template : (exclusionOf (gridDemand 0) (gridPath 0).toPathFacts).isNone = true := by
      decide +kernel
    exact template
  have count : (stableSort pathKey (planningPaths (gridFabric size))).length = size := by
    rw [(stableSort_perm _ _).length_eq]
    simp [planningPaths, gridFabric]
  rw [derivedDemand_eligiblePaths active, all, List.length_map, List.length_take, count]
  have unlimited : pathLimit (gridFabric size).policy size = size := rfl
  rw [unlimited, Nat.min_self]

theorem gridDemand_floor : (derivedDemand (gridFabric size) (gridDemand number)).floor = 1 := by
  rw [derivedDemand_floor]
  rfl

include positive in
theorem gridFabric_routed :
    routedDemands (derivation (gridFabric size)) = (derivation (gridFabric size)).demands := by
  unfold routedDemands needingDemands
  rw [List.filter_filter]
  apply List.filter_eq_self.mpr
  intro demand member
  obtain ⟨source, inside, rfl⟩ := List.mem_map.mp member
  obtain ⟨number, -, rfl⟩ := List.mem_map.mp inside
  have eligible : (derivedDemand (gridFabric size) (gridDemand number)).eligiblePaths.length = size :=
    gridDemand_eligible number
  have nonempty : (derivedDemand (gridFabric size) (gridDemand number)).eligiblePaths.isEmpty =
      false := by
    cases shape : (derivedDemand (gridFabric size) (gridDemand number)).eligiblePaths with
    | nil =>
        rw [shape] at eligible
        simp at eligible
        omega
    | cons first rest => rfl
  have active : (derivedDemand (gridFabric size) (gridDemand number)).active = true := by
    rw [derivedDemand_active]
    change linkDemand.effective.covers linkFabric.evaluationTick = true
    decide
  rw [nonempty, active, gridDemand_floor]
  rfl

include positive in
theorem gridFabric_arcs :
    size * size ≤ (makeProblem (gridFabric size) (derivation (gridFabric size))).countedArcs.length := by
  have demands : (makeProblem (gridFabric size) (derivation (gridFabric size))).derivation =
      derivation (gridFabric size) := rfl
  unfold Problem.countedArcs
  rw [demands, gridFabric_routed positive, List.length_append, List.length_flatMap]
  have each : (derivation (gridFabric size)).demands.map (fun demand =>
      (sourceArc (makeProblem (gridFabric size) (derivation (gridFabric size))).nodes demand ::
        eligibilityArcs (makeProblem (gridFabric size) (derivation (gridFabric size))).nodes
          demand).length) = List.replicate size (size + 1) := by
    rw [List.eq_replicate_iff]
    constructor
    · simp [derivation, gridFabric]
    · intro length member
      obtain ⟨demand, listed, rfl⟩ := List.mem_map.mp member
      obtain ⟨source, inside, rfl⟩ := List.mem_map.mp listed
      obtain ⟨number, -, rfl⟩ := List.mem_map.mp inside
      rw [List.length_cons, eligibilityArcs, List.length_map, gridDemand_eligible]
  rw [each, List.sum_replicate, Nat.nsmul_eq_mul]
  calc size * size ≤ size * (size + 1) := Nat.mul_le_mul_left size (Nat.le_succ size)
    _ ≤ _ := Nat.le_add_right _ _

include positive in
/-- One unit of every demand on every path fits the resource. -/
theorem gridFabric_rates (bound : size ≤ Limits.maxDemands) (room : size * size ≤ 4000000) :
    CarriesFloors (makeProblem (gridFabric size) (derivation (gridFabric size))) 1000
      (fun _ _ => 1) := by
  refine ⟨fun _ _ _ _ => by decide, ?_, ?_⟩
  · intro demand member _
    obtain ⟨source, inside, rfl⟩ := List.mem_map.mp member
    obtain ⟨number, -, rfl⟩ := List.mem_map.mp inside
    rw [gridDemand_floor, List.map_const', List.sum_replicate, gridDemand_eligible,
      Int.nsmul_eq_mul]
    omega
  · intro id resource found
    obtain ⟨source, inside, -, rfl⟩ := (freshResource_find (gridFabric_accepted bound) id
      resource).mp found
    have only : source = gridResource := List.mem_singleton.mp inside
    subst only
    have ceiling : (recomputeCeiling (resourceState (publishedResidual (gridFabric 0) gridResource))
        1000).ceiling = 4000000 := by decide +kernel
    have each : ∀ load ∈ ((derivation (gridFabric size)).demands.map fun demand =>
        (demand.eligiblePaths.map fun path => if id ∈ ((makeProblem (gridFabric size)
          (derivation (gridFabric size))).pathOf path).resources then (1 : Int) else 0).sum),
        load ≤ (size : Int) := by
      intro load member
      obtain ⟨demand, listed, rfl⟩ := List.mem_map.mp member
      obtain ⟨origin, known, rfl⟩ := List.mem_map.mp listed
      obtain ⟨number, -, rfl⟩ := List.mem_map.mp known
      have units := List.sum_le_card_nsmul ((derivedDemand (gridFabric size)
        (gridDemand number)).eligiblePaths.map fun path => if id ∈ ((makeProblem (gridFabric size)
          (derivation (gridFabric size))).pathOf path).resources then (1 : Int) else 0) 1 (by
        intro amount held
        obtain ⟨path, -, rfl⟩ := List.mem_map.mp held
        split <;> decide)
      rw [List.length_map, gridDemand_eligible, Int.nsmul_eq_mul, Int.mul_one] at units
      exact units
    have total := List.sum_le_card_nsmul _ _ each
    rw [List.length_map, Int.nsmul_eq_mul] at total
    have count : (derivation (gridFabric size)).demands.length = size := by
      simp [derivation, gridFabric]
    rw [count] at total
    change rateLoad _ _ _ ≤ (recomputeCeiling (resourceState (publishedResidual (gridFabric 0)
      gridResource)) 1000).ceiling
    rw [ceiling]
    have fits : ((size * size : Nat) : Int) ≤ 4000000 := by omega
    rw [Int.natCast_mul] at fits
    exact le_trans total fits

end Grid

/-- The search gives up on the first certificate, and a fabric that carries its floors is
reported as proven infeasible. -/
theorem gridFabric_verdict_unproved :
    Accepted (gridFabric 1500) ∧ ∃ outcome, solve (gridFabric 1500) {} = .ok outcome ∧
      outcome.status = .infeasibleCapacity ∧
      (∃ rate, CarriesFloors (makeProblem (gridFabric 1500) (derivation (gridFabric 1500)))
        (gridFabric 1500).policy.maxUtilizationPermille rate) ∧
      (certify (makeProblem (gridFabric 1500) (derivation (gridFabric 1500)))
        (gridFabric 1500).policy.maxUtilizationPermille).built = false ∧
      ¬ VerdictProved (gridFabric 1500) (derivation (gridFabric 1500)) outcome := by
  have accepted : Accepted (gridFabric 1500) := gridFabric_accepted (by decide)
  have derives : derive (gridFabric 1500) = .ok (derivation (gridFabric 1500)) := by
    apply (derive_eq_ok accepted _).mpr
    exact ⟨by decide +kernel, rfl⟩
  have arcs : 1500 * 1500 ≤ (makeProblem (gridFabric 1500)
      (derivation (gridFabric 1500))).countedArcs.length := gridFabric_arcs (by decide)
  have unbuilt : ∀ permille, (certify (makeProblem (gridFabric 1500) (derivation (gridFabric 1500)))
      permille).built = false := certify_unbuilt (lt_of_lt_of_le (by decide) arcs)
  have solved : solve (gridFabric 1500) {} =
      .ok (solveDerived (gridFabric 1500) (derivation (gridFabric 1500)) {}) := by
    unfold solve
    rw [if_neg (by decide), derives]
  have quiet : reservationConflict (derivation (gridFabric 1500)) = false := by decide +kernel
  have nothing : tightestCeiling (makeProblem (gridFabric 1500) (derivation (gridFabric 1500)))
      Limits.maxMaxUtilizationProbes 1 (gridFabric 1500).policy.maxUtilizationPermille 0 = 0 := by
    change tightestCeiling _ (63 + 1) 1 1000 0 = 0
    rw [tightestCeiling]
    simp [unbuilt]
  have refused : solveDerived (gridFabric 1500) (derivation (gridFabric 1500)) {} =
      searchRefusal (gridFabric 1500) (derivation (gridFabric 1500))
        (makeProblem (gridFabric 1500) (derivation (gridFabric 1500))) := by
    unfold solveDerived
    have weights : (gridFabric 1500).objective.terms.find? (fun term => decide (term.weight < 0)) =
        none := by decide +kernel
    have asked : hasTerm (gridFabric 1500).objective.terms .minimizeMaxUtilization = true := by
      decide +kernel
    rw [weights]
    simp only [quiet, asked, Bool.not_false, Bool.and_self, ↓reduceIte, nothing]
  have status : (searchRefusal (gridFabric 1500) (derivation (gridFabric 1500))
      (makeProblem (gridFabric 1500) (derivation (gridFabric 1500)))).status =
      .infeasibleCapacity := by
    unfold searchRefusal
    simp [unbuilt, refusal]
  have rates : CarriesFloors (makeProblem (gridFabric 1500) (derivation (gridFabric 1500)))
      (gridFabric 1500).policy.maxUtilizationPermille (fun _ _ => 1) :=
    gridFabric_rates (by decide) (by decide) (by decide)
  refine ⟨accepted, _, solved, ?_, ⟨_, rates⟩, unbuilt _, ?_⟩
  · rw [refused, status]
  · intro proved
    rw [refused] at proved
    exact (proved (Or.inl status)).1 ⟨_, rates⟩

end TrafficFabric
