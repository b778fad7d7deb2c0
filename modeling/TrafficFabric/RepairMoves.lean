import TrafficFabric.Construction

set_option autoImplicit false

/- Repair and priority. Demands are placed in descending priority, so whatever stands in the way of a
blocked demand was placed before it and has no lower priority: every move of a repair is one it is not to
make. -/
namespace TrafficFabric

/-! The calls that the placement of the minimums makes. -/

structure RepairCall where
  repair : Repair
  blocked : DemandId
  resource : ResourceId
  deficit : Int

/-- The problem that the call leaves behind. -/
def RepairCall.after (call : RepairCall) (maxIterations : Nat) : Problem :=
  (repairResource call.repair call.blocked call.resource call.deficit maxIterations).2.2.problem

def callsAlong (demand : DemandId) (need : Int) (maxIterations : Nat) :
    List ResourceId → Repair → List RepairCall
  | [], _ => []
  | id :: rest, repair =>
      match repair.problem.resources.find? id with
      | none => callsAlong demand need maxIterations rest repair
      | some resource =>
          let headroom := resource.ceiling - resource.allocated
          if need ≤ headroom then []
          else ⟨repair, demand, id, need - headroom⟩ :: callsAlong demand need maxIterations rest
            (repairResource repair demand id (need - headroom) maxIterations).2.2

def callsOnPaths (demand : DemandId) (need : Int) (maxIterations : Nat) :
    List PathId → Run → List RepairCall
  | [], _ => []
  | path :: rest, run =>
      let (progressed, repaired) := repairAlong demand need maxIterations
        (run.problem.pathOf path).resources false run
      callsAlong demand need maxIterations (run.problem.pathOf path).resources
        ⟨run.problem, run.iterations⟩ ++
        if progressed then [] else callsOnPaths demand need maxIterations rest repaired

def callsInRounds (demand : DemandId) (preferred : List PathId) (maxIterations : Nat) :
    Nat → Run → List RepairCall
  | 0, _ => []
  | rounds + 1, run =>
      let state := run.problem.demandOf demand
      let need := state.derivation.floor - state.granted
      if state.granted < state.derivation.floor ∧ run.iterations ≤ maxIterations then
        let (progressed, repaired) := repairPaths demand need maxIterations preferred run
        callsOnPaths demand need maxIterations preferred run ++
          if !progressed then []
          else
            let after := repaired.problem.demandOf demand
            let placed := place repaired.problem demand preferred (after.derivation.floor - after.granted)
            callsInRounds demand preferred maxIterations rounds { repaired with problem := placed.2 }
      else []

/-- The calls made while one demand is placed. -/
def callsForMinimum (options : SolveOptions) (run : Run) (demand : DemandId) : List RepairCall :=
  let state := run.problem.demandOf demand
  if !state.exclusion.isEmpty then []
  else
    let preferred := orderPaths run.problem demand options
    let placed := place run.problem demand preferred state.derivation.floor
    callsInRounds demand preferred options.maxIterations 4 { run with problem := placed.2 }

def callsForMinimums (options : SolveOptions) : List DemandId → Run → List RepairCall
  | [], _ => []
  | demand :: rest, run =>
      callsForMinimum options run demand ++ callsForMinimums options rest (placeMinimum options run demand)

/-! The calls listed are those made: every loop leaves the problem that the last of its calls leaves. -/

/-! What a call is to do. -/

/-- The shares of other demands change only where the priority is strictly lower, no demand loses or gains
bandwidth, and every load stays within its ceiling. -/
structure MovesLower (before after : Problem) (blocked : DemandId) : Prop where
  lower : ∀ id, (after.demandOf id).shares ≠ (before.demandOf id).shares →
    (before.demandOf id).derivation.priority < (before.demandOf blocked).derivation.priority
  granted : ∀ id, (after.demandOf id).granted = (before.demandOf id).granted
  loads : ∀ id resource, after.resources.find? id = some resource → resource.allocated ≤ resource.ceiling

/-- The candidates that avoid the resource and are not the mover's own path. -/
def avoiding (problem : Problem) (mover : Mover) (resource : ResourceId) (candidates : List PathId) :
    List PathId :=
  candidates.filter fun path =>
    decide (path ≠ mover.path) && !(problem.pathOf path).resources.contains resource

/-- The paths that a mover is tried on. -/
def alternatives (problem : Problem) (mover : Mover) (resource : ResourceId) : List PathId :=
  avoiding problem mover resource (problem.demandOf mover.demand).derivation.eligiblePaths

/-- No mover that the budget admits has an alternative with headroom. -/
def Immovable (problem : Problem) (resource : ResourceId) (maxIterations : Nat) : List Mover → Nat → Prop
  | [], _ => True
  | mover :: rest, iterations =>
      maxIterations < iterations ∨
        (∀ path ∈ alternatives problem mover resource, pathHeadroom problem (problem.pathOf path) ≤ 0) ∧
          Immovable problem resource maxIterations rest
            (iterations + (alternatives problem mover resource).length)

def RepairCall.Idle (call : RepairCall) (maxIterations : Nat) : Prop :=
  Immovable call.repair.problem call.resource maxIterations
    (moversOf call.repair.problem call.blocked call.resource) call.repair.iterations

/-! One mover. -/

theorem relocate_mono (mover : Mover) (resource : ResourceId) {wanted : Int} (small : wanted ≤ int64Max)
    (candidates : List PathId) : ∀ (relocated : Int) (repair : Repair),
      relocated ≤ (relocate mover resource wanted candidates relocated repair).1 := by
  induction candidates with
  | nil =>
      intro relocated repair
      exact le_refl _
  | cons path rest ih =>
      intro relocated repair
      rw [relocate]
      dsimp only
      by_cases enough : wanted ≤ relocated
      · rw [if_pos enough]
      rw [if_neg enough]
      split
      · exact ih relocated repair
      · split
        · exact ih relocated repair
        · generalize amount : min (pathHeadroom repair.problem (repair.problem.pathOf path))
            (wanted - relocated) = take
          by_cases full : take ≤ 0
          · rw [if_pos full]
            exact ih _ _
          · rw [if_neg full, satAdd_exact (by omega) (by omega)]
            have more :=
              ih (relocated + take) ⟨grant repair.problem mover.demand (repair.problem.pathOf path) take,
              repair.iterations + 1⟩
            omega

/-- Without headroom nothing moves, and only the budget is drawn on. -/
theorem relocate_immovable {mover : Mover} {resource : ResourceId} {wanted : Int} (positive : 0 < wanted)
    (candidates : List PathId) : ∀ repair : Repair,
      (∀ path ∈ avoiding repair.problem mover resource candidates,
        pathHeadroom repair.problem (repair.problem.pathOf path) ≤ 0) →
      relocate mover resource wanted candidates 0 repair = (0, ⟨repair.problem,
        repair.iterations + (avoiding repair.problem mover resource candidates).length⟩) := by
  induction candidates with
  | nil =>
      intro repair _
      rfl
  | cons path rest ih =>
      intro repair stuck
      rw [relocate, if_neg (by omega)]
      by_cases own : path = mover.path
      · have skipped : avoiding repair.problem mover resource (path :: rest) =
            avoiding repair.problem mover resource rest := by simp [avoiding, own]
        rw [if_pos own, skipped]
        rw [skipped] at stuck
        exact ih repair stuck
      rw [if_neg own]
      by_cases crossing : (repair.problem.pathOf path).resources.contains resource = true
      · have skipped : avoiding repair.problem mover resource (path :: rest) =
            avoiding repair.problem mover resource rest := by
          rw [avoiding, List.filter_cons_of_neg (by rw [crossing]; simp)]
          rfl
        rw [if_pos crossing, skipped]
        rw [skipped] at stuck
        exact ih repair stuck
      have kept : avoiding repair.problem mover resource (path :: rest) =
          path :: avoiding repair.problem mover resource rest := by
        rw [avoiding, List.filter_cons_of_pos (by simpa using ⟨own, by simpa using crossing⟩)]
        rfl
      rw [kept, List.forall_mem_cons] at stuck
      rw [if_neg crossing, kept]
      dsimp only
      rw [if_pos (by omega), ih ⟨repair.problem, repair.iterations + 1⟩ stuck.2, List.length_cons]
      simp only [Prod.mk.injEq, Repair.mk.injEq, true_and]
      omega

/-- One alternative with headroom is enough for something to move. -/
theorem relocate_moves {mover : Mover} {resource : ResourceId} {wanted : Int} (positive : 0 < wanted)
    (small : wanted ≤ int64Max) (candidates : List PathId) : ∀ repair : Repair,
      (∃ path ∈ avoiding repair.problem mover resource candidates,
        0 < pathHeadroom repair.problem (repair.problem.pathOf path)) →
      0 < (relocate mover resource wanted candidates 0 repair).1 := by
  induction candidates with
  | nil =>
      rintro repair ⟨path, listed, -⟩
      cases listed
  | cons path rest ih =>
      rintro repair ⟨open_, listed, room⟩
      have later : open_ ≠ path → open_ ∈ avoiding repair.problem mover resource rest := by
        intro different
        unfold avoiding at listed ⊢
        rw [List.mem_filter] at listed ⊢
        exact ⟨(List.mem_cons.mp listed.1).resolve_left different, listed.2⟩
      have avoids := (List.mem_filter.mp listed).2
      rw [Bool.and_eq_true, decide_eq_true_eq, Bool.not_eq_true'] at avoids
      rw [relocate, if_neg (by omega)]
      by_cases own : path = mover.path
      · rw [if_pos own]
        exact ih repair ⟨open_, later (fun same => avoids.1 (same.trans own)), room⟩
      rw [if_neg own]
      by_cases crossing : (repair.problem.pathOf path).resources.contains resource = true
      · rw [if_pos crossing]
        refine ih repair ⟨open_, later ?_, room⟩
        rintro rfl
        rw [avoids.2] at crossing
        cases crossing
      rw [if_neg crossing]
      dsimp only
      generalize amount : min (pathHeadroom repair.problem (repair.problem.pathOf path)) (wanted - 0) = take
      by_cases full : take ≤ 0
      · rw [if_pos full]
        refine ih ⟨repair.problem, repair.iterations + 1⟩ ⟨open_, later ?_, room⟩
        rintro rfl
        omega
      · rw [if_neg full, satAdd_exact (by omega) (by omega)]
        have more := relocate_mono mover resource small rest (0 + take)
          ⟨grant repair.problem mover.demand (repair.problem.pathOf path) take, repair.iterations + 1⟩
        omega

/-! All movers. -/

section Movers

variable {snapshot : FabricSnapshot} {permille : Int} (accepted : Accepted snapshot)

theorem repairMovers_immovable {resource : ResourceId} {maxIterations : Nat} (movers : List Mover) :
    ∀ outcome : RepairOutcome, (∀ mover ∈ movers, 0 < mover.granted) → 0 < outcome.deficit →
      Immovable outcome.repair.problem resource maxIterations movers outcome.repair.iterations →
      (repairMovers resource maxIterations movers outcome).repair.problem = outcome.repair.problem := by
  induction movers with
  | nil =>
      intro outcome _ _ _
      rfl
  | cons mover rest ih =>
      intro outcome granted open_ stuck
      obtain ⟨positive, others⟩ := List.forall_mem_cons.mp granted
      rw [repairMovers]
      by_cases finished : outcome.deficit ≤ 0 ∨ maxIterations < outcome.repair.iterations
      · rw [if_pos finished]
      · rw [if_neg finished]
        obtain ⟨none, later⟩ := stuck.resolve_left fun exhausted => finished (Or.inr exhausted)
        have still := relocate_immovable (by omega : 0 < min outcome.deficit mover.granted)
          (outcome.repair.problem.demandOf mover.demand).derivation.eligiblePaths outcome.repair none
        simp only [still, lt_irrefl, ↓reduceIte]
        exact ih { outcome with repair := ⟨outcome.repair.problem, outcome.repair.iterations +
          (alternatives outcome.repair.problem mover resource).length⟩ } others open_ later

include accepted in
/-- A mover with an alternative loses bandwidth over the resource. -/
theorem repairMovers_displaces {resource : ResourceId} {maxIterations : Nat} (movers : List Mover) :
    ∀ outcome : RepairOutcome, outcome.repair.problem.Safe snapshot permille →
      (∀ mover ∈ movers, mover.Holds outcome.repair.problem resource) → movers.Pairwise Mover.Differs →
      0 < outcome.deficit →
      ¬ Immovable outcome.repair.problem resource maxIterations movers outcome.repair.iterations →
      ∃ id path, ((repairMovers resource maxIterations movers outcome).repair.problem.demandOf
        id).share path <
        (outcome.repair.problem.demandOf id).share path := by
  induction movers with
  | nil =>
      intro outcome _ _ _ _ movable
      exact absurd trivial movable
  | cons mover rest ih =>
      intro outcome safe holds differ open_ movable
      rw [List.pairwise_cons] at differ
      have moverHolds := holds mover List.mem_cons_self
      have positive := moverHolds.1
      obtain ⟨-, crossing, state, found, share⟩ := moverHolds
      have current : outcome.repair.problem.demandOf mover.demand = state := by
        rw [Problem.demandOf, found]
        rfl
      have below := safe.consistent.share_le_granted found (DemandState.find?_of_share positive share)
      have maximum := safe.maximum _ state found
      have limit := safe.consistent.maximum_le accepted found
      have word : Limits.maxBandwidth ≤ int64Max := by decide
      rw [Immovable, not_or] at movable
      obtain ⟨budget, either⟩ := movable
      rw [repairMovers, if_neg (by omega)]
      dsimp only
      by_cases stuck : ∀ path ∈ alternatives outcome.repair.problem mover resource,
          pathHeadroom outcome.repair.problem (outcome.repair.problem.pathOf path) ≤ 0
      · have still := relocate_immovable (by omega : 0 < min outcome.deficit mover.granted)
          (outcome.repair.problem.demandOf mover.demand).derivation.eligiblePaths outcome.repair stuck
        simp only [still, lt_irrefl, ↓reduceIte]
        exact ih { outcome with repair := ⟨outcome.repair.problem, outcome.repair.iterations +
            (alternatives outcome.repair.problem mover resource).length⟩ } safe
          (fun other member => holds other (List.mem_cons_of_mem _ member)) differ.2 open_
          fun later => either ⟨stuck, later⟩
      · have roomy : ∃ path ∈ alternatives outcome.repair.problem mover resource,
            0 < pathHeadroom outcome.repair.problem (outcome.repair.problem.pathOf path) := by
          by_contra none
          apply stuck
          intro path listed
          by_contra room
          exact none ⟨path, listed, by omega⟩
        have moves := relocate_moves (by omega : 0 < min outcome.deficit mover.granted) (by omega) _
          outcome.repair roomy
        obtain ⟨afterSafe, grows, nonneg, left⟩ :=
          relocate_mover accepted safe (holds mover List.mem_cons_self)
          (by omega : 0 ≤ min outcome.deficit mover.granted) (by omega)
        have lookup := afterSafe.consistent.built.same_pathOf safe.consistent.built
        have later : ∀ other ∈ rest, other.Holds _ resource := fun other member =>
          (holds other (List.mem_cons_of_mem _ member)).after (differ.1 other member) lookup grows
        generalize relocate mover resource (min outcome.deficit mover.granted)
          (outcome.repair.problem.demandOf mover.demand).derivation.eligiblePaths 0
          outcome.repair = result at afterSafe later grows nonneg left lookup moves ⊢
        rw [if_pos moves] at afterSafe later left lookup ⊢
        -- What the later movers do leaves the share where it is, or lowers it further.
        have recedes := (@repairMovers_spec snapshot permille accepted resource maxIterations rest
          ⟨outcome.deficit - result.1, true, { result.2 with
          problem := revoke result.2.problem mover.demand
            (outcome.repair.problem.pathOf mover.path) result.1 }⟩
          afterSafe later differ.2).2.recedes mover.demand mover.path (by rw [lookup]; exact crossing)
        refine ⟨mover.demand, mover.path, lt_of_le_of_lt recedes ?_⟩
        rw [left, current, share]
        omega

/-- A call that is idle changes nothing, and any other displaces some share. -/
theorem repairResource_idle {call : RepairCall} (open_ : 0 < call.deficit) {maxIterations : Nat}
    (idle : call.Idle maxIterations) : call.after maxIterations = call.repair.problem :=
  repairMovers_immovable _ ⟨call.deficit, false, call.repair⟩
    (fun mover listed => (moversOf_holds mover listed).1) open_ idle

end Movers

/-! One call. -/

/-- No demand that holds bandwidth has a lower priority than the one to be placed, itself apart. -/
def Problem.Ahead (problem : Problem) (demand : DemandId) : Prop :=
  ∀ id, 0 < (problem.demandOf id).granted → id = demand ∨
    (problem.demandOf demand).derivation.priority ≤ (problem.demandOf id).derivation.priority

theorem Problem.Consistent.share_range {problem : Problem} {snapshot : FabricSnapshot} {permille : Int}
    (consistent : problem.Consistent snapshot permille) (id : DemandId) (path : PathId) :
    0 ≤ (problem.demandOf id).share path ∧ (problem.demandOf id).share path ≤
      (problem.demandOf id).granted := by
  unfold Problem.demandOf
  cases found : problem.demands.find? id with
  | none => exact ⟨le_refl 0, le_refl 0⟩
  | some state =>
      rw [Option.getD_some]
      have granted := consistent.granted_nonneg found
      unfold DemandState.share
      cases held : state.shares.find? path with
      | none => exact ⟨le_refl 0, granted⟩
      | some amount =>
          exact ⟨le_of_lt (consistent.shares id state found path amount held).1,
            consistent.share_le_granted found held⟩

structure RepairCall.Placed (call : RepairCall) (snapshot : FabricSnapshot) (permille : Int) : Prop where
  safe : call.repair.problem.Safe snapshot permille
  ahead : call.repair.problem.Ahead call.blocked
  short : 0 < call.deficit

theorem RepairCall.Placed.lower_iff {call : RepairCall} {snapshot : FabricSnapshot} {permille : Int}
    (placed : call.Placed snapshot permille) (accepted : Accepted snapshot) (maxIterations : Nat) :
    MovesLower call.repair.problem (call.after maxIterations) call.blocked ↔ call.Idle maxIterations := by
  constructor
  · intro lower
    by_contra movable
    obtain ⟨id, path, displaced⟩ := repairMovers_displaces accepted _ ⟨call.deficit, false, call.repair⟩
      placed.safe moversOf_holds (moversOf_differ _ _ _) placed.short movable
    change ((call.after maxIterations).demandOf id).share path <
      (call.repair.problem.demandOf id).share path
      at displaced
    have done :=
      (repairResource_spec accepted placed.safe call.blocked call.resource call.deficit maxIterations).1
    have left : 0 ≤ ((call.after maxIterations).demandOf id).share path :=
      (done.consistent.share_range id path).1
    have held := (placed.safe.consistent.share_range id path).2
    have strict := lower.lower id (by
      intro same
      unfold DemandState.share at displaced
      rw [same] at displaced
      exact lt_irrefl _ displaced)
    rcases placed.ahead id (by omega) with same | higher
    · rw [same] at strict
      exact lt_irrefl _ strict
    · exact absurd strict (not_lt.mpr higher)
  · intro idle
    rw [repairResource_idle placed.short idle]
    exact ⟨fun id changed => absurd rfl changed, fun _ => rfl, placed.safe.consistent.within⟩

/-! The calls of a run. -/

section Calls

variable {P : Problem → Nat → Prop} {demand : DemandId} {maxIterations : Nat}
variable (repaired : ∀ (repair : Repair) (resource : ResourceId) (deficit : Int),
  P repair.problem repair.iterations →
    P (repairResource repair demand resource deficit maxIterations).2.2.problem
      (repairResource repair demand resource deficit maxIterations).2.2.iterations)

include repaired

theorem callsAlong_keep (need : Int) (resources : List ResourceId) : ∀ repair : Repair,
    P repair.problem repair.iterations →
    ∀ call ∈ callsAlong demand need maxIterations resources repair,
      P call.repair.problem call.repair.iterations ∧ call.blocked = demand ∧ 0 < call.deficit := by
  induction resources with
  | nil =>
      intro repair held call listed
      cases listed
  | cons resource rest ih =>
      intro repair held call listed
      rw [callsAlong] at listed
      cases found : repair.problem.resources.find? resource with
      | none =>
          rw [found] at listed
          exact ih repair held call listed
      | some state =>
          rw [found] at listed
          dsimp only at listed
          split at listed
          · cases listed
          · rcases List.mem_cons.mp listed with rfl | later
            · exact ⟨held, rfl, by dsimp only; omega⟩
            · exact ih _ (repaired repair resource _ held) call later

theorem callsOnPaths_keep (need : Int) (paths : List PathId) : ∀ run : Run, P run.problem run.iterations →
    ∀ call ∈ callsOnPaths demand need maxIterations paths run,
      P call.repair.problem call.repair.iterations ∧ call.blocked = demand ∧ 0 < call.deficit := by
  induction paths with
  | nil =>
      intro run held call listed
      cases listed
  | cons path rest ih =>
      intro run held call listed
      rw [callsOnPaths] at listed
      dsimp only at listed
      rcases List.mem_append.mp listed with along | later
      · exact callsAlong_keep repaired need _ ⟨run.problem, run.iterations⟩ held call along
      · split at later
        · cases later
        · exact ih _ (repairAlong_keeps repaired need _ false run held) call later

theorem callsInRounds_keep {preferred : List PathId} (placed : ∀ (problem : Problem) (need : Int)
      (iterations : Nat), P problem iterations → P (place problem demand preferred need).2 iterations)
    (rounds : Nat) : ∀ run : Run, P run.problem run.iterations →
    ∀ call ∈ callsInRounds demand preferred maxIterations rounds run,
      P call.repair.problem call.repair.iterations ∧ call.blocked = demand ∧ 0 < call.deficit := by
  induction rounds with
  | zero =>
      intro run held call listed
      cases listed
  | succ rounds ih =>
      intro run held call listed
      rw [callsInRounds] at listed
      dsimp only at listed
      split at listed
      · rcases List.mem_append.mp listed with early | later
        · exact callsOnPaths_keep repaired _ preferred run held call early
        · split at later
          · cases later
          · exact ih _ (placed _ _ _ (repairPaths_keeps repaired _ preferred run held)) call later
      · cases listed

end Calls

/-! The run. -/

theorem grant_others (problem : Problem) (demand : DemandId) (path : PathFacts) (amount : Int)
    {other : DemandId}
    (different : other ≠ demand) :
    (grant problem demand path amount).demandOf other = problem.demandOf other := by
  unfold grant
  split
  · rfl
  · rw [Problem.demandOf, Problem.demandOf, OrdMap.find?_modify_ne _ _ _ _ different]

theorem placeAlong_others (demand : DemandId) (need : Int) (order : List PathId) {other : DemandId}
    (different : other ≠ demand) : ∀ (placed : Int) (problem : Problem),
      (placeAlong demand need order placed problem).2.demandOf other = problem.demandOf other := by
  induction order with
  | nil =>
      intro placed problem
      rfl
  | cons path rest ih =>
      intro placed problem
      rw [placeAlong]
      dsimp only
      split
      · rfl
      · split
        · exact ih placed problem
        · rw [ih, grant_others _ _ _ _ different]

theorem place_others (problem : Problem) (demand : DemandId) (order : List PathId) (need : Int)
    {other : DemandId}
    (different : other ≠ demand) :
    (place problem demand order need).2.demandOf other = problem.demandOf other := by
  unfold place
  dsimp only
  split
  · rfl
  · exact placeAlong_others demand _ order different 0 problem

section Run

variable {snapshot : FabricSnapshot} {permille : Int} (accepted : Accepted snapshot)

/-- The demand aside, every demand of the safe problem is granted what it was. -/
def Problem.Serves (start : Problem) (snapshot : FabricSnapshot) (permille : Int) (demand : DemandId)
    (problem : Problem) : Prop :=
  problem.Safe snapshot permille ∧
    ∀ id, id ≠ demand → (problem.demandOf id).granted = (start.demandOf id).granted

include accepted

theorem Problem.Serves.repaired {start problem : Problem} {demand : DemandId} {iterations : Nat}
    (serves : start.Serves snapshot permille demand problem) (resource : ResourceId) (deficit : Int)
    (maxIterations : Nat) : start.Serves snapshot permille demand
      (repairResource ⟨problem, iterations⟩ demand resource deficit maxIterations).2.2.problem := by
  obtain ⟨safe, clears⟩ := @repairResource_spec snapshot permille accepted
    ⟨problem, iterations⟩ serves.1 demand
    resource deficit maxIterations
  exact ⟨safe, fun id different => (clears.granted id).trans (serves.2 id different)⟩

theorem Problem.Serves.placed {start problem : Problem} {demand : Demand}
    (member : demand ∈ snapshot.demands)
    (admitted : Admitted snapshot demand) (serves : start.Serves snapshot permille demand.id problem)
    {order : List PathId} (eligible : ∀ path ∈ order, path ∈ (derivedDemand snapshot demand).eligiblePaths)
    (need : Int) : start.Serves snapshot permille demand.id (place problem demand.id order need).2 := by
  refine ⟨serves.1.place accepted member admitted eligible need, ?_⟩
  intro id different
  rw [place_others problem demand.id order need different]
  exact serves.2 id different

/-- The calls for one demand, and the problem they lead to, leave the other demands what they had. -/
theorem placeMinimum_serves {run : Run} (safe : run.problem.Safe snapshot permille) (options : SolveOptions)
    {demand : Demand} (member : demand ∈ snapshot.demands) :
    run.problem.Serves snapshot permille demand.id (placeMinimum options run demand.id).problem ∧
      ∀ call ∈ callsForMinimum options run demand.id,
        run.problem.Serves snapshot permille demand.id call.repair.problem ∧
          call.blocked = demand.id ∧ 0 < call.deficit := by
  have start : run.problem.Serves snapshot permille demand.id run.problem := ⟨safe, fun _ _ => rfl⟩
  unfold placeMinimum callsForMinimum
  dsimp only
  split
  · exact ⟨start, fun call listed => absurd listed List.not_mem_nil⟩
  · rename_i included
    have admitted := safe.admitted_of_exclusion accepted member included
    have eligible := safe.mem_orderPaths accepted member options
    have placed := fun problem need (_ : Nat)
        (serves : run.problem.Serves snapshot permille demand.id problem) =>
      serves.placed accepted member admitted eligible need
    have repaired := fun (repair : Repair) resource deficit
        (serves : run.problem.Serves snapshot permille demand.id repair.problem) =>
      @Problem.Serves.repaired snapshot permille accepted run.problem repair.problem demand.id
        repair.iterations serves resource deficit options.maxIterations
    let held : Problem → Nat → Prop := fun problem _ =>
      run.problem.Serves snapshot permille demand.id problem
    exact ⟨repairRounds_keeps (P := held) repaired placed 4 _ (placed _ _ 0 start),
      callsInRounds_keep (P := held) repaired placed 4 _ (placed _ _ 0 start)⟩

theorem callsForMinimums_placed (options : SolveOptions) (rest : List DemandDerivation) :
    ∀ (done : List DemandDerivation) (run : Run), run.problem.Safe snapshot permille →
      (done ++ rest).Pairwise (fun first second => second.priority ≤ first.priority) →
      (∀ entry ∈ done ++ rest, ∃ demand ∈ snapshot.demands, derivedDemand snapshot demand = entry) →
      (∀ id, 0 < (run.problem.demandOf id).granted → ∃ entry ∈ done, entry.demand = id) →
      ∀ call ∈ callsForMinimums options (rest.map DemandDerivation.demand) run,
        call.Placed snapshot permille := by
  induction rest with
  | nil =>
      intro done run _ _ _ _ call listed
      cases listed
  | cons entry rest ih =>
      intro done run safe sorted known held call listed
      obtain ⟨demand, member, rfl⟩ := known entry (List.mem_append_right _ List.mem_cons_self)
      rw [List.map_cons, callsForMinimums, derivedDemand_demand] at listed
      obtain ⟨after, calls⟩ := placeMinimum_serves accepted safe options member
      have holders : ∀ problem, run.problem.Serves snapshot permille demand.id problem →
          ∀ id, 0 < (problem.demandOf id).granted → id = demand.id ∨ ∃ entry ∈ done, entry.demand = id := by
        intro problem serves id positive
        by_cases own : id = demand.id
        · exact Or.inl own
        · rw [serves.2 id own] at positive
          exact Or.inr (held id positive)
      rcases List.mem_append.mp listed with now | later
      · obtain ⟨serves, blocked, short⟩ := calls call now
        refine ⟨serves.1, ?_, short⟩
        rw [blocked]
        intro id positive
        rcases holders _ serves id positive with own | ⟨earlier, inside, named⟩
        · exact Or.inl own
        · right
          obtain ⟨other, otherMember, rfl⟩ := known earlier (List.mem_append_left _ inside)
          obtain ⟨_, -, ownState, ownDerived, -⟩ := serves.1.demand_state accepted member
          obtain ⟨_, -, otherState, otherDerived, -⟩ := serves.1.demand_state accepted otherMember
          rw [derivedDemand_demand] at named
          rw [← named, ownState, otherState, ownDerived, otherDerived]
          exact (List.pairwise_append.mp sorted).2.2 _ inside _ List.mem_cons_self
      · apply ih (done ++ [derivedDemand snapshot demand]) _ after.1 _ _ _ call later
        · rw [List.append_assoc]
          exact sorted
        · rw [List.append_assoc]
          exact known
        · intro id positive
          rcases holders _ after id positive with own | ⟨earlier, inside, named⟩
          · exact ⟨_, List.mem_append_right _
              (List.mem_singleton_self _), by rw [derivedDemand_demand, own]⟩
          · exact ⟨earlier, List.mem_append_left _ inside, named⟩

end Run

theorem fresh_granted {snapshot : FabricSnapshot} (accepted : Accepted snapshot)
    (permille : Int) (id : DemandId) :
    ((setCeiling (makeProblem snapshot (derivation snapshot)) permille).demandOf id).granted = 0 := by
  change (((makeProblem snapshot (derivation snapshot)).demands.find? id).getD default).granted = 0
  cases found : (makeProblem snapshot (derivation snapshot)).demands.find? id with
  | none => rfl
  | some state =>
      obtain ⟨demand, -, -, rfl⟩ := (freshDemand_find accepted id state).mp found
      rfl

/-- The demands come in descending priority. -/
theorem processing_descends (derived : Derivation) :
    (stableSort processingKey (derived.demands.filter DemandDerivation.active)).Pairwise
      fun first second => second.priority ≤ first.priority := by
  apply (stableSort_sorted processingKey _).imp
  intro first second ordered
  have high : first.priority.toNat < 256 := first.priority.toNat_lt
  have low : second.priority.toNat < 256 := second.priority.toNat_lt
  have keys : 255 - first.priority.toNat ≤ 255 - second.priority.toNat := by
    rcases Prod.Lex.le_iff.mp ordered with less | ⟨same, -⟩
    · exact le_of_lt less
    · exact le_of_eq same
  rw [UInt8.le_iff_toNat_le]
  omega

/-- A repair call made while the minimums are placed moves only lower priorities exactly when it moves
nothing. -/
theorem repair_moves_lower_iff {snapshot : FabricSnapshot} {derived : Derivation} {options : SolveOptions}
    (accepted : Accepted snapshot) (derives : derive snapshot = .ok derived) {permille : Int}
    {iterations : Nat}
    {notes : List Text} {call : RepairCall}
    (made : call ∈ callsForMinimums options (canonicalProcessingOrder derived)
      ⟨setCeiling (makeProblem snapshot derived) permille, iterations, notes⟩) :
    MovesLower call.repair.problem (call.after options.maxIterations) call.blocked ↔
      call.Idle options.maxIterations := by
  obtain ⟨-, rfl⟩ := (derive_eq_ok accepted derived).mp derives
  have safe := fresh_safe accepted permille
  have placed := callsForMinimums_placed accepted options
    (stableSort processingKey ((derivation snapshot).demands.filter DemandDerivation.active)) []
    ⟨setCeiling (makeProblem snapshot (derivation snapshot)) permille, iterations, notes⟩ safe
    (processing_descends _) (by
      intro entry listed
      rw [List.nil_append, mem_stableSort, List.mem_filter] at listed
      exact List.mem_map.mp listed.1) (by
      intro id positive
      rw [fresh_granted accepted permille id] at positive
      exact absurd positive (lt_irrefl 0)) call made
  exact placed.lower_iff accepted options.maxIterations

/-! A demand of high priority that has an alternative, in the way of one of low priority that has none. -/

def crossroadsPath (literal resource : String) (cost : Int) : CandidatePath :=
  { linkPath with
    id := named literal
    authority := ⟨named literal, Gen.first⟩
    resources := [named resource]
    cost := cost }

def crossroadsFabric : FabricSnapshot :=
  { linkFabric with
    capacity := { linkFabric.capacity with
      resources := [{ linkResource with usableCapacity := 10 },
        { linkResource with
          id := named "link-2"
          usableCapacity := 10 }] }
    demands := [{ linkDemand with priority := 200 },
      { linkDemand with
        id := named "demand-2"
        priority := 100
        minimumBandwidth := 5
        allowedPaths := [named "path-1"] }]
    paths := [crossroadsPath "path-1" "link-1" 1, crossroadsPath "path-2" "link-2" 2] }

def crossroadsCalls : List RepairCall :=
  callsForMinimums {} (canonicalProcessingOrder (derivation crossroadsFabric))
    ⟨setCeiling (makeProblem crossroadsFabric (derivation crossroadsFabric)) 1000, 0, []⟩

theorem crossroadsFabric_accepted : Accepted crossroadsFabric :=
  accepted_of_checks _ (by decide +kernel) (by decide +kernel)

theorem crossroadsFabric_derives : derive crossroadsFabric = .ok (derivation crossroadsFabric) :=
  (derive_eq_ok crossroadsFabric_accepted _).mpr ⟨by decide +kernel, rfl⟩

theorem repair_moves_lower_iff_crossroads : ∃ call ∈ crossroadsCalls,
    (MovesLower call.repair.problem (call.after 4000000) call.blocked ↔ call.Idle 4000000) := by
  have some_ : crossroadsCalls ≠ [] := by
    have listed : crossroadsCalls.isEmpty = false := by decide +kernel
    simpa using listed
  obtain ⟨call, made⟩ := List.exists_mem_of_ne_nil _ some_
  exact ⟨call, made, @repair_moves_lower_iff crossroadsFabric _ {} crossroadsFabric_accepted
    crossroadsFabric_derives 1000 0 [] call made⟩

/-- The demand of priority 200 is moved for the one of priority 100. -/
theorem crossroads_moves_higher : Accepted crossroadsFabric ∧ ∃ call ∈ crossroadsCalls,
    ¬ MovesLower call.repair.problem (call.after 4000000) call.blocked := by
  refine ⟨crossroadsFabric_accepted, ?_⟩
  have displaced : crossroadsCalls.any (fun call =>
      decide (((call.after 4000000).demandOf (named "demand-1")).shares ≠
        (call.repair.problem.demandOf (named "demand-1")).shares) &&
      !decide ((call.repair.problem.demandOf (named "demand-1")).derivation.priority <
        (call.repair.problem.demandOf call.blocked).derivation.priority)) = true := by
    decide +kernel
  obtain ⟨call, made, both⟩ := List.any_eq_true.mp displaced
  rw [Bool.and_eq_true, decide_eq_true_eq, Bool.not_eq_true', decide_eq_false_iff_not] at both
  exact ⟨call, made, fun lower => both.2 (lower.lower _ both.1)⟩

end TrafficFabric
