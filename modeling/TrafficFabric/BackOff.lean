import TrafficFabric.RepairMoves
import TrafficFabric.SolverVerified
import TrafficFabric.WorkConservation

set_option autoImplicit false

/- The back-off and its budget. A run on a fresh problem depends on the iterations made before it only
through the checks of the budget: where the same checks pass, the same shares are placed. -/
namespace TrafficFabric

/-! The checks of the budget, as the counters at which they pass. -/

/-- What a mover's alternatives took is taken from its share. -/
def takeBack (mover : Mover) (outcome : RepairOutcome) (result : Int × Repair) : RepairOutcome :=
  if 0 < result.1 then
    { deficit := outcome.deficit - result.1
      movedAny := true
      repair := { result.2 with
        problem := revoke result.2.problem mover.demand
          (outcome.repair.problem.pathOf mover.path) result.1 } }
  else { outcome with repair := result.2 }

/-- One mover of a repair. -/
def moveOne (resource : ResourceId) (mover : Mover) (outcome : RepairOutcome) : RepairOutcome :=
  takeBack mover outcome (relocate mover resource (min outcome.deficit mover.granted)
    (outcome.repair.problem.demandOf mover.demand).derivation.eligiblePaths 0 outcome.repair)

def checksOfMovers (resource : ResourceId) (maxIterations : Nat) : List Mover → RepairOutcome → List Nat
  | [], _ => []
  | mover :: rest, outcome =>
      if outcome.deficit ≤ 0 ∨ maxIterations < outcome.repair.iterations then []
      else outcome.repair.iterations :: checksOfMovers resource maxIterations rest
        (moveOne resource mover outcome)

def RepairCall.checks (call : RepairCall) (maxIterations : Nat) : List Nat :=
  checksOfMovers call.resource maxIterations (moversOf call.repair.problem call.blocked call.resource)
    { deficit := call.deficit, movedAny := false, repair := call.repair }

def checksOfCalls (maxIterations : Nat) (calls : List RepairCall) : List Nat :=
  calls.flatMap fun call => call.checks maxIterations

def checksInRounds (demand : DemandId) (preferred : List PathId) (maxIterations : Nat) :
    Nat → Run → List Nat
  | 0, _ => []
  | rounds + 1, run =>
      let state := run.problem.demandOf demand
      let need := state.derivation.floor - state.granted
      if state.granted < state.derivation.floor ∧ run.iterations ≤ maxIterations then
        let (progressed, repaired) := repairPaths demand need maxIterations preferred run
        run.iterations :: checksOfCalls maxIterations
          (callsOnPaths demand need maxIterations preferred run) ++
          if !progressed then []
          else
            let after := repaired.problem.demandOf demand
            let placed := place repaired.problem demand preferred (after.derivation.floor - after.granted)
            checksInRounds demand preferred maxIterations rounds { repaired with problem := placed.2 }
      else []

def checksForMinimum (options : SolveOptions) (run : Run) (demand : DemandId) : List Nat :=
  let state := run.problem.demandOf demand
  if !state.exclusion.isEmpty then []
  else
    let preferred := orderPaths run.problem demand options
    let placed := place run.problem demand preferred state.derivation.floor
    checksInRounds demand preferred options.maxIterations 4 { run with problem := placed.2 }

def checksForMinimums (options : SolveOptions) : List DemandId → Run → List Nat
  | [], _ => []
  | demand :: rest, run =>
      checksForMinimum options run demand ++
        checksForMinimums options rest (placeMinimum options run demand)

/-! The runs of a back-off. -/

/-- A run on a fresh problem: its ceiling, and the counters it starts with. -/
structure Trial where
  ceiling : Int
  iterations : Nat
  notes : List Text

def Trial.start (trial : Trial) (snapshot : FabricSnapshot) (derived : Derivation) : Run :=
  ⟨setCeiling (makeProblem snapshot derived) trial.ceiling, trial.iterations, trial.notes⟩

def Trial.run (trial : Trial) (snapshot : FabricSnapshot) (derived : Derivation)
    (options : SolveOptions) : Run :=
  runMinimums options (canonicalProcessingOrder derived) (trial.start snapshot derived)

/-- The trials of the bisection in the order they are made. -/
def widenTrials (snapshot : FabricSnapshot) (derived : Derivation) (options : SolveOptions) :
    Nat → Int → Int → Nat → List Text → List Trial
  | 0, _, _, _, _ => []
  | probes + 1, low, high, iterations, notes =>
      if low ≤ high then
        let mid := low + (high - low).tdiv 2
        let trial : Trial := ⟨mid, iterations, notes⟩
        let run := trial.run snapshot derived options
        trial :: if unmetFloors run.problem = 0 then
            if mid = low then []
            else widenTrials snapshot derived options probes low (mid - 1) run.iterations run.notes
          else widenTrials snapshot derived options probes (mid + 1) high run.iterations run.notes
      else []

/-- The first run, the trials that follow it, and the final run. -/
structure BackOff where
  first : Trial
  trials : List Trial
  final : Trial

def backOffFrom (snapshot : FabricSnapshot) (derived : Derivation)
    (options : SolveOptions) (ceiling : Int) :
    BackOff :=
  let cap := snapshot.policy.maxUtilizationPermille
  let first : Trial := ⟨ceiling, 0, []⟩
  let run := first.run snapshot derived options
  let (found, iterations, notes) := widenCeiling snapshot derived options (canonicalProcessingOrder derived)
    Limits.maxMaxUtilizationProbes (ceiling + 1) cap 0 run.iterations run.notes
  { first := first
    trials := widenTrials snapshot derived options Limits.maxMaxUtilizationProbes (ceiling + 1) cap
      run.iterations run.notes
    final := ⟨if found = 0 then cap else found, iterations, notes⟩ }

/-! The same run, begun when more iterations have been made. -/

def Repair.later (repair : Repair) (spent : Nat) : Repair :=
  { repair with iterations := repair.iterations + spent }

def RepairOutcome.later (outcome : RepairOutcome) (spent : Nat) : RepairOutcome :=
  { outcome with repair := outcome.repair.later spent }

/-- The checks that pass also pass when `spent` more iterations have been made. -/
def Affords (checks : List Nat) (spent maxIterations : Nat) : Prop :=
  ∀ check ∈ checks, check + spent ≤ maxIterations

theorem affords_append (early late : List Nat) (spent maxIterations : Nat) :
    Affords (early ++ late) spent maxIterations ↔
      Affords early spent maxIterations ∧ Affords late spent maxIterations :=
  List.forall_mem_append

theorem affords_cons (check : Nat) (rest : List Nat) (spent maxIterations : Nat) :
    Affords (check :: rest) spent maxIterations ↔
      check + spent ≤ maxIterations ∧ Affords rest spent maxIterations :=
  List.forall_mem_cons

/-- A move never looks at the budget. -/
theorem relocate_later (mover : Mover) (resource : ResourceId) (wanted : Int) (spent : Nat)
    (candidates : List PathId) : ∀ (relocated : Int) (repair : Repair),
      relocate mover resource wanted candidates relocated (repair.later spent) =
        ((relocate mover resource wanted candidates relocated repair).1,
          (relocate mover resource wanted candidates relocated repair).2.later spent) := by
  induction candidates with
  | nil =>
      intro relocated repair
      rfl
  | cons path rest ih =>
      intro relocated repair
      have counted : ∀ problem : Problem, Repair.mk problem (repair.iterations + spent + 1) =
          (Repair.mk problem (repair.iterations + 1)).later spent := by
        intro problem
        rw [Repair.later, Nat.add_right_comm]
      rw [relocate, relocate]
      by_cases enough : wanted ≤ relocated
      · rw [if_pos enough, if_pos enough]
      rw [if_neg enough, if_neg enough]
      by_cases own : path = mover.path
      · rw [if_pos own, if_pos own]
        exact ih relocated repair
      rw [if_neg own, if_neg own]
      by_cases crossing : (repair.problem.pathOf path).resources.contains resource = true
      · rw [if_pos crossing,
          if_pos (show ((repair.later spent).problem.pathOf path).resources.contains resource =
          true from crossing)]
        exact ih relocated repair
      rw [if_neg crossing,
        if_neg (show ¬ ((repair.later spent).problem.pathOf path).resources.contains resource =
        true from crossing)]
      dsimp only [Repair.later]
      rw [counted, counted]
      split
      · exact ih _ _
      · exact ih _ _

theorem moveOne_later (resource : ResourceId) (mover : Mover) (outcome : RepairOutcome) (spent : Nat) :
    moveOne resource mover (outcome.later spent) = (moveOne resource mover outcome).later spent := by
  have taken : ∀ result : Int × Repair, takeBack mover (outcome.later spent)
    (result.1, result.2.later spent) =
      (takeBack mover outcome result).later spent := by
    intro result
    unfold takeBack
    split
    · rfl
    · rfl
  rw [moveOne, moveOne, ← taken, ← relocate_later]
  rfl

theorem repairMovers_cons (resource : ResourceId) (maxIterations : Nat) (mover : Mover) (rest : List Mover)
    (outcome : RepairOutcome) : repairMovers resource maxIterations (mover :: rest) outcome =
      if outcome.deficit ≤ 0 ∨ maxIterations < outcome.repair.iterations then outcome
      else repairMovers resource maxIterations rest (moveOne resource mover outcome) := by
  rw [repairMovers, moveOne, takeBack]
  dsimp only
  split
  · rfl
  · split
    · rfl
    · rfl

theorem repairMovers_later (resource : ResourceId) {maxIterations spent : Nat} (movers : List Mover) :
    ∀ outcome : RepairOutcome,
      Affords (checksOfMovers resource maxIterations movers outcome) spent maxIterations →
      repairMovers resource maxIterations movers (outcome.later spent) =
        (repairMovers resource maxIterations movers outcome).later spent := by
  induction movers with
  | nil =>
      intro outcome _
      rfl
  | cons mover rest ih =>
      intro outcome affords
      rw [checksOfMovers] at affords
      rw [repairMovers_cons, repairMovers_cons]
      by_cases finished : outcome.deficit ≤ 0 ∨ maxIterations < outcome.repair.iterations
      · -- More iterations made before do not bring budget back.
        rw [if_pos finished, if_pos]
        exact finished.imp_right fun exhausted => lt_of_lt_of_le exhausted (Nat.le_add_right _ _)
      · rw [if_neg finished, affords_cons] at affords
        have afforded : ¬ ((outcome.later spent).deficit ≤ 0 ∨
            maxIterations < (outcome.later spent).repair.iterations) := by
          rintro (cleared | exhausted)
          · exact finished (Or.inl cleared)
          · exact absurd affords.1 (not_le.mpr exhausted)
        rw [if_neg finished, if_neg afforded, moveOne_later]
        exact ih _ affords.2

theorem repairResource_later {call : RepairCall} {maxIterations spent : Nat}
    (affords : Affords (call.checks maxIterations) spent maxIterations) :
    repairResource (call.repair.later spent) call.blocked call.resource call.deficit maxIterations =
      let (cleared, note, repair) :=
        repairResource call.repair call.blocked call.resource call.deficit maxIterations
      (cleared, note, repair.later spent) := by
  have movers : repairMovers call.resource maxIterations
      (moversOf (call.repair.later spent).problem call.blocked call.resource)
      ⟨call.deficit, false, call.repair.later spent⟩ = _ :=
    repairMovers_later call.resource _ ⟨call.deficit, false, call.repair⟩ affords
  unfold repairResource
  dsimp only
  rw [movers]
  rfl

/-- A run that stands where another does, with `spent` more iterations made. The notes may differ. -/
structure Run.Trails (late early : Run) (spent : Nat) : Prop where
  problem : late.problem = early.problem
  iterations : late.iterations = early.iterations + spent

section Runs

variable {demand : DemandId} {maxIterations spent : Nat}

theorem repairAlong_later (need : Int) (resources : List ResourceId) :
    ∀ (progressed : Bool) (early late : Run),
    late.Trails early spent →
    Affords (checksOfCalls maxIterations (callsAlong demand need maxIterations resources
      ⟨early.problem, early.iterations⟩)) spent maxIterations →
    (repairAlong demand need maxIterations resources progressed late).1 =
        (repairAlong demand need maxIterations resources progressed early).1 ∧
      (repairAlong demand need maxIterations resources progressed late).2.Trails
        (repairAlong demand need maxIterations resources progressed early).2 spent := by
  induction resources with
  | nil =>
      intro progressed early late trails _
      exact ⟨rfl, trails⟩
  | cons id rest ih =>
      intro progressed early late trails affords
      rw [callsAlong] at affords
      rw [repairAlong, repairAlong, trails.problem]
      cases found : early.problem.resources.find? id with
      | none =>
          rw [found] at affords
          exact ih progressed early late trails affords
      | some resource =>
          rw [found] at affords
          dsimp only at affords ⊢
          by_cases roomy : need ≤ resource.ceiling - resource.allocated
          · rw [if_pos roomy, if_pos roomy]
            exact ⟨rfl, trails⟩
          · rw [if_neg roomy, checksOfCalls, List.flatMap_cons, affords_append] at affords
            have call : repairResource ⟨early.problem, early.iterations + spent⟩ demand id
                (need - (resource.ceiling - resource.allocated)) maxIterations = _ :=
              @repairResource_later ⟨⟨early.problem, early.iterations⟩, demand, id,
                need - (resource.ceiling - resource.allocated)⟩ maxIterations spent affords.1
            rw [if_neg roomy, if_neg roomy, trails.iterations, call]
            apply ih
            · exact ⟨rfl, rfl⟩
            · exact affords.2

theorem repairPaths_later (need : Int) (paths : List PathId) : ∀ early late : Run, late.Trails early spent →
    Affords (checksOfCalls maxIterations (callsOnPaths demand need maxIterations paths early)) spent
      maxIterations →
    (repairPaths demand need maxIterations paths late).1 =
      (repairPaths demand need maxIterations paths early).1 ∧
      (repairPaths demand need maxIterations paths late).2.Trails
        (repairPaths demand need maxIterations paths early).2 spent := by
  induction paths with
  | nil =>
      intro early late trails _
      exact ⟨rfl, trails⟩
  | cons path rest ih =>
      intro early late trails affords
      rw [callsOnPaths] at affords
      dsimp only at affords
      rw [checksOfCalls, List.flatMap_append, affords_append] at affords
      obtain ⟨flag, along⟩ :=
        repairAlong_later need (early.problem.pathOf path).resources false early late trails
        affords.1
      rw [repairPaths, repairPaths, trails.problem]
      dsimp only
      rw [flag]
      split
      · exact ⟨rfl, along⟩
      · rename_i blocked
        rw [if_neg blocked] at affords
        exact ih _ _ along affords.2

theorem repairRounds_later {preferred : List PathId} (rounds : Nat) : ∀ early late : Run,
    late.Trails early spent →
    Affords (checksInRounds demand preferred maxIterations rounds early) spent maxIterations →
    (repairRounds demand preferred maxIterations rounds late).Trails
      (repairRounds demand preferred maxIterations rounds early) spent := by
  induction rounds with
  | zero =>
      intro early late trails _
      exact trails
  | succ rounds ih =>
      intro early late trails affords
      rw [checksInRounds] at affords
      rw [repairRounds, repairRounds, trails.problem]
      dsimp only at affords ⊢
      by_cases short : (early.problem.demandOf demand).granted <
        (early.problem.demandOf demand).derivation.floor ∧
          early.iterations ≤ maxIterations
      · rw [if_pos short, affords_append, affords_cons] at affords
        obtain ⟨⟨budget, calls⟩, next⟩ := affords
        have shortLate : (early.problem.demandOf demand).granted <
            (early.problem.demandOf demand).derivation.floor ∧ late.iterations ≤ maxIterations := by
          refine ⟨short.1, ?_⟩
          rw [trails.iterations]
          exact budget
        obtain ⟨flag, paths⟩ := repairPaths_later _ preferred early late trails calls
        rw [if_pos short, if_pos shortLate, flag]
        split
        · exact paths
        · rename_i progressed
          rw [if_neg progressed] at next
          rw [paths.problem]
          exact ih _ _ ⟨rfl, paths.iterations⟩ next
      · have shortLate : ¬ ((early.problem.demandOf demand).granted <
            (early.problem.demandOf demand).derivation.floor ∧ late.iterations ≤ maxIterations) := by
          rintro ⟨unmet, budget⟩
          rw [trails.iterations] at budget
          exact short ⟨unmet, le_trans (Nat.le_add_right _ _) budget⟩
        rw [if_neg short, if_neg shortLate]
        exact trails

end Runs

theorem placeMinimum_later {options : SolveOptions} {demand : DemandId} {early late : Run} {spent : Nat}
    (trails : late.Trails early spent)
    (affords : Affords (checksForMinimum options early demand) spent options.maxIterations) :
    (placeMinimum options late demand).Trails (placeMinimum options early demand) spent := by
  unfold checksForMinimum at affords
  unfold placeMinimum
  rw [trails.problem]
  dsimp only at affords ⊢
  split
  · exact trails
  · rename_i included
    rw [if_neg included] at affords
    exact repairRounds_later 4 _ _ ⟨rfl, trails.iterations⟩ affords

theorem runMinimums_later {options : SolveOptions} {spent : Nat} (order : List DemandId) :
    ∀ early late : Run, late.Trails early spent →
      Affords (checksForMinimums options order early) spent options.maxIterations →
      (runMinimums options order late).Trails (runMinimums options order early) spent := by
  induction order with
  | nil =>
      intro early late trails _
      exact trails
  | cons demand rest ih =>
      intro early late trails affords
      rw [checksForMinimums, affords_append] at affords
      exact ih _ _ (placeMinimum_later trails affords.1) affords.2

/-! The counter only goes up. -/

theorem relocate_counts (mover : Mover) (resource : ResourceId) (wanted : Int) (candidates : List PathId) :
    ∀ (relocated : Int) (repair : Repair),
      repair.iterations ≤ (relocate mover resource wanted candidates relocated repair).2.iterations := by
  induction candidates with
  | nil =>
      intro relocated repair
      exact le_refl _
  | cons path rest ih =>
      intro relocated repair
      rw [relocate]
      dsimp only
      split
      · exact le_refl _
      · split
        · exact ih relocated repair
        · split
          · exact ih relocated repair
          · split
            · exact Nat.le_of_succ_le (ih _ ⟨_, repair.iterations + 1⟩)
            · exact Nat.le_of_succ_le (ih _ ⟨_, repair.iterations + 1⟩)

theorem repairMovers_counts (resource : ResourceId) (maxIterations : Nat) (movers : List Mover) :
    ∀ outcome : RepairOutcome,
      outcome.repair.iterations ≤
        (repairMovers resource maxIterations movers outcome).repair.iterations := by
  induction movers with
  | nil =>
      intro outcome
      exact le_refl _
  | cons mover rest ih =>
      intro outcome
      have moved := relocate_counts mover resource (min outcome.deficit mover.granted)
        (outcome.repair.problem.demandOf mover.demand).derivation.eligiblePaths 0 outcome.repair
      rw [repairMovers_cons]
      split
      · exact le_refl _
      · refine le_trans moved (le_trans ?_ (ih _))
        unfold moveOne takeBack
        split
        · exact le_refl _
        · exact le_refl _

theorem placeMinimum_counts (options : SolveOptions) (run : Run) (demand : DemandId) :
    run.iterations ≤ (placeMinimum options run demand).iterations := by
  unfold placeMinimum
  dsimp only
  split
  · exact le_refl _
  · refine repairRounds_keeps (P := fun _ count => run.iterations ≤ count) ?_ ?_ 4 _ (le_refl _)
    · intro repair resource deficit counted
      exact le_trans counted (repairMovers_counts resource options.maxIterations _ ⟨deficit, false, repair⟩)
    · intro problem need count counted
      exact counted

theorem runMinimums_counts (options : SolveOptions) (order : List DemandId) : ∀ run : Run,
    run.iterations ≤ (runMinimums options order run).iterations := by
  induction order with
  | nil =>
      intro run
      exact le_refl _
  | cons demand rest ih =>
      intro run
      exact le_trans (placeMinimum_counts options run demand) (ih _)

/-- The trials are made before the final run. -/
theorem widenTrials_counts (snapshot : FabricSnapshot) (derived : Derivation) (options : SolveOptions)
    (probes : Nat) : ∀ (low high best : Int) (iterations : Nat) (notes : List Text),
      let last := (widenCeiling snapshot derived options
        (canonicalProcessingOrder derived) probes low high best
        iterations notes).2.1
      iterations ≤ last ∧ ∀ trial ∈ widenTrials snapshot derived options probes low high iterations notes,
        trial.iterations ≤ last := by
  induction probes with
  | zero =>
      intro low high best iterations notes
      exact ⟨le_refl _, fun trial tried => absurd tried List.not_mem_nil⟩
  | succ probes ih =>
      intro low high best iterations notes
      dsimp only
      rw [widenCeiling, widenTrials]
      by_cases open_ : low ≤ high
      · rw [if_pos open_, if_pos open_]
        dsimp only
        generalize low + (high - low).tdiv 2 = mid
        have counts := runMinimums_counts options (canonicalProcessingOrder derived)
          ⟨setCeiling (makeProblem snapshot derived) mid, iterations, notes⟩
        rw [Trial.run, Trial.start]
        dsimp only
        generalize runMinimums options (canonicalProcessingOrder derived)
          ⟨setCeiling (makeProblem snapshot derived) mid, iterations, notes⟩ = run at counts ⊢
        -- The trial itself comes first; what follows starts from the counter it leaves.
        by_cases placed : unmetFloors run.problem = 0
        · rw [if_pos placed, if_pos placed]
          by_cases lowest : mid = low
          · rw [if_pos lowest, if_pos lowest]
            simpa using counts
          · rw [if_neg lowest, if_neg lowest]
            obtain ⟨later, others⟩ := ih low (mid - 1) mid run.iterations run.notes
            exact ⟨counts.trans later, List.forall_mem_cons.mpr ⟨counts.trans later, others⟩⟩
        · rw [if_neg placed, if_neg placed]
          obtain ⟨later, others⟩ := ih (mid + 1) high best run.iterations run.notes
          exact ⟨counts.trans later, List.forall_mem_cons.mpr ⟨counts.trans later, others⟩⟩
      · rw [if_neg open_, if_neg open_]
        exact ⟨le_refl _, fun trial tried => absurd tried List.not_mem_nil⟩

/-! The final run. -/

/-- The first run left a floor unplaced, and there is a ceiling between its own and the cap. -/
structure BacksOff (snapshot : FabricSnapshot) (derived : Derivation)
    (options : SolveOptions) (ceiling : Int) :
    Prop where
  unmet : 0 < unmetFloors
    ((backOffFrom snapshot derived options ceiling).first.run snapshot derived options).problem
  requested : hasTerm snapshot.objective.terms .minimizeMaxUtilization = true
  below : ceiling < snapshot.policy.maxUtilizationPermille

section Final

variable {snapshot : FabricSnapshot} {derived : Derivation} {options : SolveOptions} {ceiling : Int}

theorem constructMinimums_final (backs : BacksOff snapshot derived options ceiling) :
    (constructMinimums snapshot derived options ceiling).run.problem =
        ((backOffFrom snapshot derived options ceiling).final.run snapshot derived options).problem ∧
      (constructMinimums snapshot derived options ceiling).ceiling =
        (backOffFrom snapshot derived options ceiling).final.ceiling := by
  unfold constructMinimums
  dsimp only
  rw [if_pos]
  · exact ⟨rfl, rfl⟩
  · exact ⟨backs.unmet, backs.requested, backs.below⟩

/-- Where the checks of a trial pass again in the final run, the final run places the trial's shares. -/
theorem final_repeats (backs : BacksOff snapshot derived options ceiling) {trial : Trial}
    (tried : trial ∈ (backOffFrom snapshot derived options ceiling).trials)
    (chosen : trial.ceiling = (constructMinimums snapshot derived options ceiling).ceiling)
    (affords : Affords
      (checksForMinimums options (canonicalProcessingOrder derived) (trial.start snapshot derived))
      ((backOffFrom snapshot derived options ceiling).final.iterations - trial.iterations)
      options.maxIterations) :
    (constructMinimums snapshot derived options ceiling).run.problem =
      (trial.run snapshot derived options).problem := by
  obtain ⟨problem, last⟩ := constructMinimums_final backs
  have before : trial.iterations ≤ (backOffFrom snapshot derived options ceiling).final.iterations :=
    (widenTrials_counts snapshot derived options _ _ _ 0 _ _).2 trial tried
  rw [problem]
  refine (runMinimums_later _ (trial.start snapshot derived) _ ⟨?_, ?_⟩ affords).problem
  · rw [Trial.start, Trial.start, chosen, last]
  · change (backOffFrom snapshot derived options ceiling).final.iterations =
      trial.iterations +
        ((backOffFrom snapshot derived options ceiling).final.iterations - trial.iterations)
    omega

end Final

/-! Floors that stay placed. -/

section Placed

variable {snapshot : FabricSnapshot} {permille : Int} (accepted : Accepted snapshot)

include accepted

theorem unmetFloors_eq_zero {problem : Problem} (safe : problem.Safe snapshot permille) :
    unmetFloors problem = 0 ↔ ∀ demand ∈ snapshot.demands,
      demand.effective.covers snapshot.evaluationTick = true → Admitted snapshot demand →
        (derivedDemand snapshot demand).floor ≤ (problem.demandOf demand.id).granted := by
  have exclusion : ∀ demand ∈ snapshot.demands,
      ((problem.demandOf demand.id).exclusion.isEmpty = true ↔ Admitted snapshot demand) := by
    intro demand member
    obtain ⟨state, -, current, -, excluded⟩ := safe.demand_state accepted member
    rw [current, excluded, List.isEmpty_iff, Admitted]
  unfold unmetFloors
  rw [List.length_eq_zero_iff, List.filter_eq_nil_iff, safe.consistent.built.derivation]
  simp only [Bool.and_eq_true, decide_eq_true_eq, not_and, not_lt]
  constructor
  · intro none demand member active admitted
    have floor := none _ (List.mem_map_of_mem member) (by
      rw [derivedDemand_active, derivedDemand_demand]
      exact ⟨active, (exclusion demand member).mpr admitted⟩)
    rw [derivedDemand_demand] at floor
    exact floor
  · rintro placed entry listed ⟨active, included⟩
    obtain ⟨demand, member, rfl⟩ := List.mem_map.mp listed
    rw [derivedDemand_active] at active
    rw [derivedDemand_demand] at included ⊢
    exact placed demand member active ((exclusion demand member).mp included)

theorem consolidateOne_granted {problem : Problem} (safe : problem.Safe snapshot permille)
    (options : SolveOptions) {demand : Demand} (member : demand ∈ snapshot.demands) (id : DemandId) :
    ((consolidateOne options problem demand.id).demandOf id).granted = (problem.demandOf id).granted := by
  unfold consolidateOne
  split
  · rfl
  · obtain ⟨state, found, current, derived, -⟩ := safe.demand_state accepted member
    have eligible : ∀ path ∈ orderPaths problem demand.id options, path ∈
        state.derivation.eligiblePaths := by
      rw [derived]
      exact safe.mem_orderPaths accepted member options
    have grows := (consolidatePaths_spec accepted safe found eligible).2
    by_cases own : id = demand.id
    · obtain ⟨next, present, -, granted, -⟩ := grows.own state found
      rw [own, current, Problem.demandOf, present, Option.getD_some, granted, Int.add_zero]
    · rw [Problem.demandOf, Problem.demandOf, grows.others id own]

theorem consolidateAll_granted {problem : Problem} (safe : problem.Safe snapshot permille)
    (options : SolveOptions) (id : DemandId) :
    ((consolidateAll options (canonicalProcessingOrder (derivation snapshot)) problem).demandOf
      id).granted =
      (problem.demandOf id).granted := by
  have folded : ∀ order : List DemandId, (∀ id ∈ order, ∃ demand ∈ snapshot.demands, demand.id = id) →
      ∀ problem : Problem, problem.Safe snapshot permille →
        ((order.foldl (consolidateOne options) problem).demandOf id).granted =
          (problem.demandOf id).granted := by
    intro order
    induction order with
    | nil =>
        intro _ problem _
        rfl
    | cons first rest ih =>
        intro known problem safe
        obtain ⟨⟨demand, member, rfl⟩, later⟩ := List.forall_mem_cons.mp known
        rw [List.foldl_cons, ih later _ (consolidateOne_safe accepted safe options member),
          consolidateOne_granted accepted safe options member id]
  unfold consolidateAll
  split
  · exact folded _ (fun _ => mem_processingOrder) problem safe
  · rfl

/-- The soft targets and the consolidation take nothing away. -/
theorem constructed_granted (options : SolveOptions) {ceiling : Int} (nonneg : 0 ≤ ceiling)
    (bounded : ceiling ≤ snapshot.policy.maxUtilizationPermille) {demand : Demand}
    (member : demand ∈ snapshot.demands) :
    ((constructMinimums snapshot (derivation snapshot) options ceiling).run.problem.demandOf
      demand.id).granted ≤
      ((constructed snapshot (derivation snapshot) options ceiling).demandOf demand.id).granted := by
  have safe := (constructMinimums_safe accepted options nonneg bounded).1
  have filled := fillTargets_safe accepted options safe
  have rises : (constructMinimums snapshot (derivation snapshot) options ceiling).run.problem.Rises
      (fillTargets options (canonicalProcessingOrder (derivation snapshot))
        (constructMinimums snapshot (derivation snapshot) options ceiling).run.problem) := by
    unfold fillTargets
    dsimp only
    split
    · exact (foldl_fillOne_fills accepted options _ safe fun _ inside =>
        mem_processingOrder (mem_fairOrder inside)).1
    · exact (foldl_fillOne_fills accepted options _ safe fun _ => mem_processingOrder).1
  obtain ⟨state, found, current, -, -⟩ := safe.demand_state accepted member
  obtain ⟨next, present, -, more⟩ := rises.demands demand.id state found
  unfold constructed
  dsimp only
  rw [consolidateAll_granted accepted filled options demand.id, current, Problem.demandOf, present,
    Option.getD_some]
  exact more

end Placed

/-- Once every floor is placed, only the policy's exclusions stand against a success. -/
theorem floorsMet_or_blocked {problem : Problem} (placed : unmetFloors problem = 0) :
    floorsMet problem = true ∨ policyBlocked problem = true := by
  by_contra neither
  rw [not_or] at neither
  obtain ⟨unmet, admitted⟩ := neither
  apply unmet
  unfold unmetFloors at placed
  rw [List.length_eq_zero_iff, List.filter_eq_nil_iff] at placed
  unfold policyBlocked at admitted
  rw [List.any_eq_true, not_exists] at admitted
  unfold floorsMet
  rw [List.all_eq_true]
  intro demand listed
  have floor := placed demand listed
  have excluded := admitted demand
  by_cases active : demand.active = true
  · by_cases included : (problem.demandOf demand.demand).exclusion.isEmpty = true
    · simpa [active, included] using floor
    · simpa [active, included, listed] using excluded
  · simp [active]

theorem verdictOf_placed (policy : Policy) (options : SolveOptions) {problem : Problem}
    (placed : unmetFloors problem = 0) : (verdictOf policy options problem false).status = .feasible ∨
      (verdictOf policy options problem false).status = .infeasiblePolicy ∧
        policyBlocked problem = true := by
  unfold verdictOf
  dsimp only
  rw [if_neg (by decide)]
  by_cases met : floorsMet problem = true
  · rw [if_pos met]
    exact Or.inl rfl
  · have blocked := (floorsMet_or_blocked placed).resolve_left met
    rw [if_neg met, if_pos blocked]
    exact Or.inr ⟨rfl, blocked⟩

/-! The back-off of a call. -/

/-- The final run places the trial's shares, and the outcome reports no floor as unplaced. -/
structure RepeatsTrial (snapshot : FabricSnapshot) (derived : Derivation) (options : SolveOptions)
    (trial : Trial) : Prop where
  shares : (constructMinimums snapshot derived options (startingCeiling snapshot derived)).run.problem =
    (trial.run snapshot derived options).problem
  floors : unmetFloors (constructed snapshot derived options (startingCeiling snapshot derived)) = 0
  reported : ∀ outcome, solve snapshot options = .ok outcome → outcome.status = .feasible ∨
    (outcome.status = .infeasiblePolicy ∧
      policyBlocked (constructed snapshot derived options (startingCeiling snapshot derived)) = true) ∨
    (outcome.status = .conflictingInput ∧ HasStalePath snapshot)

/-- A trial that placed every floor is repeated by the final run when the budget suffices again. -/
theorem backOff_repeats {snapshot : FabricSnapshot} {derived : Derivation} {options : SolveOptions}
    (accepted : Accepted snapshot) (derives : derive snapshot = .ok derived)
    (weights : SupportedWeights snapshot)
    (backs : BacksOff snapshot derived options (startingCeiling snapshot derived))
    (searched : startingCeiling snapshot derived ≠ 0) {trial : Trial}
    (tried : trial ∈ (backOffFrom snapshot derived options (startingCeiling snapshot derived)).trials)
    (placed : unmetFloors (trial.run snapshot derived options).problem = 0)
    (chosen : trial.ceiling = finalCeiling snapshot derived options)
    (affords : Affords
      (checksForMinimums options (canonicalProcessingOrder derived) (trial.start snapshot derived))
      ((backOffFrom snapshot derived options (startingCeiling snapshot derived)).final.iterations -
        trial.iterations) options.maxIterations) :
    RepeatsTrial snapshot derived options trial := by
  obtain ⟨fits, rfl⟩ := (derive_eq_ok accepted derived).mp derives
  obtain ⟨nonneg, bounded⟩ := startingCeiling_range accepted (derivation snapshot)
  have same := final_repeats backs tried chosen affords
  have safe := (constructMinimums_safe accepted options nonneg bounded).1
  have finished := constructed_safe_at accepted options nonneg bounded
  have floors : unmetFloors (constructed snapshot (derivation snapshot) options
      (startingCeiling snapshot (derivation snapshot))) = 0 := by
    rw [← same, unmetFloors_eq_zero accepted safe] at placed
    rw [unmetFloors_eq_zero accepted finished]
    intro demand member active admitted
    exact (placed demand member active admitted).trans
      (constructed_granted accepted options nonneg bounded member)
  have quiet : reservationConflict (derivation snapshot) = false := by
    by_contra conflict
    have below := backs.below
    simp [startingCeiling, searchesCeiling, conflict] at below
  refine ⟨same, floors, ?_⟩
  intro outcome solved
  rw [(solve_eq_ok derives solved).2, solveDerived_constructs ⟨weights, searched⟩, quiet]
  rcases plan_reports accepted options fits nonneg bounded with same | conflicting
  · rw [same]
    exact (verdictOf_placed snapshot.policy options floors).imp_right Or.inl
  · exact Or.inr (Or.inr ⟨conflicting.1, conflicting.2.stale⟩)

/-! Two demands over one link: the trial at 500 permille spends the tenth and last iteration of the budget.
-/

def backOffPath (literal : String) (resources : List ResourceId) (cost : Int) : CandidatePath :=
  { linkPath with
    id := named literal
    authority := ⟨named literal, Gen.first⟩
    resources := resources
    cost := cost }

def backOffDemand (literal : String) (priority : UInt8) (allowed : List PathId) : Demand :=
  { linkDemand with
    id := named literal
    priority := priority
    minimumBandwidth := 50
    desiredBandwidth := 50
    maximumBandwidth := 50
    allowedPaths := allowed }

def backOffFabric : FabricSnapshot :=
  { linkFabric with
    capacity := { linkFabric.capacity with
      resources := [linkResource, { linkResource with id := named "link-2" },
        { linkResource with id := named "link-3" }] }
    demands := [backOffDemand "demand-1" 200 [], backOffDemand "demand-2" 100 [named "path-3"]]
    objective := { linkFabric.objective with terms := [{ term := .minimizeMaxUtilization, weight := 1 }] }
    paths := [backOffPath "path-1" [named "link-1"] 1, backOffPath "path-2" [named "link-2"] 2,
      backOffPath "path-3" [named "link-1", named "link-3"] 1] }

theorem backOffFabric_accepted : Accepted backOffFabric :=
  accepted_of_checks _ (by decide +kernel) (by decide +kernel)

theorem backOffFabric_derives : derive backOffFabric = .ok (derivation backOffFabric) :=
  (derive_eq_ok backOffFabric_accepted _).mpr ⟨by decide +kernel, rfl⟩

/-- The first two floors fit under no lower ceiling. -/
theorem backOffFabric_starts : startingCeiling backOffFabric (derivation backOffFabric) = 340 := by
  decide +kernel

def backOffOptions (maxIterations : Nat) : SolveOptions := { maxIterations := maxIterations }

theorem backOff_repeats_backOffFabric : ∃ trial ∈ (backOffFrom backOffFabric (derivation backOffFabric)
      (backOffOptions 10) (startingCeiling backOffFabric (derivation backOffFabric))).trials,
    RepeatsTrial backOffFabric (derivation backOffFabric) (backOffOptions 10) trial := by
  have backs : BacksOff backOffFabric (derivation backOffFabric) (backOffOptions 10)
      (startingCeiling backOffFabric (derivation backOffFabric)) := by
    rw [backOffFabric_starts]
    exact ⟨by decide +kernel, by decide +kernel, by decide +kernel⟩
  have last : (backOffFrom backOffFabric (derivation backOffFabric) (backOffOptions 10)
      (startingCeiling backOffFabric (derivation backOffFabric))).trials.any (fun trial =>
        decide (unmetFloors
          (trial.run backOffFabric (derivation backOffFabric) (backOffOptions 10)).problem = 0) &&
        decide (trial.ceiling = finalCeiling backOffFabric (derivation backOffFabric)
          (backOffOptions 10)) &&
        (checksForMinimums (backOffOptions 10) (canonicalProcessingOrder (derivation backOffFabric))
          (trial.start backOffFabric (derivation backOffFabric))).all (fun check => decide (check +
            ((backOffFrom backOffFabric (derivation backOffFabric) (backOffOptions 10)
              (startingCeiling backOffFabric (derivation backOffFabric))).final.iterations -
                trial.iterations) ≤ 10))) = true := by
    rw [backOffFabric_starts]
    decide +kernel
  obtain ⟨trial, tried, holds⟩ := List.any_eq_true.mp last
  simp only [Bool.and_eq_true, decide_eq_true_eq, List.all_eq_true] at holds
  exact ⟨trial, tried, backOff_repeats backOffFabric_accepted backOffFabric_derives
    ((supportedWeights_iff _).mpr (by decide +kernel)) backs (by rw [backOffFabric_starts]; decide) tried
      holds.1.1 holds.1.2 holds.2⟩

/-- A trial places every floor at the ceiling that is chosen, and the final run leaves one unplaced. -/
theorem backOffFabric_gives_up : Accepted backOffFabric ∧
    (∃ trial ∈ (backOffFrom backOffFabric (derivation backOffFabric) (backOffOptions 9)
        (startingCeiling backOffFabric (derivation backOffFabric))).trials,
      unmetFloors (trial.run backOffFabric (derivation backOffFabric) (backOffOptions 9)).problem = 0 ∧
        trial.ceiling = finalCeiling backOffFabric (derivation backOffFabric) (backOffOptions 9) ∧
        ¬ RepeatsTrial backOffFabric (derivation backOffFabric) (backOffOptions 9) trial) ∧
    ∃ outcome, solve backOffFabric (backOffOptions 9) = .ok outcome ∧
      outcome.status = .solverLimitReached := by
  refine ⟨backOffFabric_accepted, ?_, _, solve_of_derives backOffFabric_derives
    (by decide), by decide +kernel⟩
  have last : (backOffFrom backOffFabric (derivation backOffFabric) (backOffOptions 9)
      (startingCeiling backOffFabric (derivation backOffFabric))).trials.any (fun trial =>
        decide (unmetFloors
          (trial.run backOffFabric (derivation backOffFabric) (backOffOptions 9)).problem = 0) &&
        decide (trial.ceiling = finalCeiling backOffFabric (derivation backOffFabric)
          (backOffOptions 9))) = true := by
    rw [backOffFabric_starts]
    decide +kernel
  obtain ⟨trial, tried, holds⟩ := List.any_eq_true.mp last
  simp only [Bool.and_eq_true, decide_eq_true_eq] at holds
  have left : unmetFloors (constructMinimums backOffFabric (derivation backOffFabric) (backOffOptions 9)
      (startingCeiling backOffFabric (derivation backOffFabric))).run.problem = 1 := by
    rw [backOffFabric_starts]
    decide +kernel
  refine ⟨trial, tried, holds.1, holds.2, ?_⟩
  intro repeats
  rw [repeats.shares, holds.1] at left
  cases left

end TrafficFabric
