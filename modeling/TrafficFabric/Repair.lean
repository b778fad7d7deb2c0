import TrafficFabric.Placement

set_option autoImplicit false

/- Repair and consolidation grant on other paths before they revoke. In between the demand
holds the moved bandwidth twice; afterwards it holds as much as before. -/
namespace TrafficFabric

variable {snapshot : FabricSnapshot} {permille : Int} (accepted : Accepted snapshot)

/-! Relocation of one share. -/

include accepted in
theorem relocate_spec {mover : Mover} {resource : ResourceId} {wanted : Int}
    (small : wanted ≤ int64Max) (candidates : List PathId) :
    ∀ (relocated : Int) (repair : Repair) (state : DemandState),
      repair.problem.Consistent snapshot permille →
      repair.problem.demands.find? mover.demand = some state →
      (∀ path ∈ candidates, path ∈ state.derivation.eligiblePaths) → state.exclusion = [] →
      0 ≤ relocated → relocated ≤ wanted → state.granted + (wanted - relocated) ≤ int64Max →
      let result := relocate mover resource wanted candidates relocated repair
      result.2.problem.Consistent snapshot permille ∧
        repair.problem.Grows result.2.problem mover.demand (result.1 - relocated)
          (fun path => resource ∈ (repair.problem.pathOf path).resources) ∧
        relocated ≤ result.1 ∧ result.1 ≤ wanted := by
  induction candidates with
  | nil =>
      intro relocated repair state consistent found eligible included nonneg below fits
      have still := Problem.Grows.refl repair.problem mover.demand
        fun path => resource ∈ (repair.problem.pathOf path).resources
      simp only [relocate, Int.sub_self]
      exact ⟨consistent, still, le_refl _, below⟩
  | cons path rest ih =>
      intro relocated repair state consistent found eligible included nonneg below fits
      have still := Problem.Grows.refl repair.problem mover.demand
        fun path => resource ∈ (repair.problem.pathOf path).resources
      have later : ∀ other ∈ rest, other ∈ state.derivation.eligiblePaths := fun other member =>
        eligible other (List.mem_cons_of_mem _ member)
      have skip := fun iterations => ih relocated { repair with iterations := iterations } state
        consistent found later included nonneg below fits
      obtain ⟨candidate, named⟩ := consistent.eligible_candidate accepted found
        (eligible path List.mem_cons_self)
      simp only [relocate]
      by_cases enough : wanted ≤ relocated
      · rw [if_pos enough]
        simp only [Int.sub_self]
        exact ⟨consistent, still, le_refl _, below⟩
      rw [if_neg enough]
      by_cases own : path = mover.path
      · rw [if_pos own]
        exact skip repair.iterations
      rw [if_neg own]
      by_cases crossing : (repair.problem.pathOf path).resources.contains resource = true
      · rw [if_pos crossing]
        exact skip repair.iterations
      rw [if_neg crossing]
      generalize amount : min (pathHeadroom repair.problem (repair.problem.pathOf path))
        (wanted - relocated) = take
      by_cases full : take ≤ 0
      · rw [if_pos full]
        exact skip (repair.iterations + 1)
      rw [if_neg full]
      obtain ⟨grantedConsistent, shifts⟩ := grant_spec consistent accepted found candidate
        (by rw [named]; exact eligible path List.mem_cons_self) included (by omega : 0 < take)
        (by omega) (by omega)
      obtain ⟨next, present, moved⟩ := shifts.moved state found
      have kept := DemandState.fixed_parts moved.fixed
      have limit := moved.granted
      rw [satAdd_exact (by omega) (by omega)]
      generalize after : Repair.mk (grant repair.problem mover.demand (repair.problem.pathOf path) take)
        (repair.iterations + 1) = moving
      have problemAfter : grant repair.problem mover.demand (repair.problem.pathOf path) take =
          moving.problem := by rw [← after]
      rw [problemAfter] at grantedConsistent present shifts
      have lookup := grantedConsistent.built.same_pathOf consistent.built
      obtain ⟨done, grows, low, high⟩ := ih (relocated + take) moving next grantedConsistent present
        (by rw [kept.1]; exact later) (by rw [kept.2.2]; exact included) (by omega) (by omega)
        (by omega)
      rw [lookup] at grows
      refine ⟨done, ?_, by omega, high⟩
      have avoids : ¬ resource ∈ (repair.problem.pathOf (repair.problem.pathOf path).id).resources := by
        rw [named]
        simpa using crossing
      have total := (shifts.grows avoids).trans grows
      have sum : take + ((relocate mover resource wanted rest (relocated + take) moving).1 -
          (relocated + take)) =
          (relocate mover resource wanted rest (relocated + take) moving).1 - relocated := by omega
      rw [sum] at total
      exact total

/-! Repair of one resource. -/

/-- The share a mover was recorded with is still there. -/
def Mover.Holds (mover : Mover) (problem : Problem) (resource : ResourceId) : Prop :=
  0 < mover.granted ∧ resource ∈ (problem.pathOf mover.path).resources ∧
    ∃ state, problem.demands.find? mover.demand = some state ∧
      state.share mover.path = mover.granted

def Mover.Differs (first second : Mover) : Prop :=
  first.demand ≠ second.demand ∨ first.path ≠ second.path

theorem moversOf_holds {problem : Problem} {blocked : DemandId} {resource : ResourceId} :
    ∀ mover ∈ moversOf problem blocked resource, mover.Holds problem resource := by
  intro mover member
  unfold moversOf at member
  rw [mem_stableSort, List.mem_flatMap] at member
  obtain ⟨entry, present, listed⟩ := member
  by_cases same : entry.1 = blocked
  · simp [same] at listed
  · rw [if_neg same, List.mem_filterMap] at listed
    obtain ⟨share, held, kept⟩ := listed
    have found := (OrdMap.mem_entries_iff problem.demands entry.1 entry.2).mp present
    have heldShare := (OrdMap.mem_entries_iff entry.2.shares share.1 share.2).mp held
    by_cases nothing : share.2 ≤ 0
    · simp [nothing] at kept
    · rw [if_neg nothing] at kept
      by_cases crossing : (problem.pathOf share.1).resources.contains resource = true
      · rw [if_pos crossing] at kept
        cases kept
        refine ⟨not_le.mp nothing, by simpa using crossing, entry.2, found, ?_⟩
        simp [DemandState.share, heldShare]
      · rw [if_neg crossing] at kept
        cases kept

theorem moversOf_differ (problem : Problem) (blocked : DemandId) (resource : ResourceId) :
    (moversOf problem blocked resource).Pairwise Mover.Differs := by
  have symmetric : ∀ {first second : Mover}, first.Differs second → second.Differs first := by
    intro first second differs
    exact differs.imp Ne.symm Ne.symm
  have ofEntry : ∀ (entry : DemandId × DemandState) (mover : Mover), mover ∈
      (if entry.1 = blocked then [] else entry.2.shares.entries.filterMap fun share =>
        if share.2 ≤ 0 then none
        else if (problem.pathOf share.1).resources.contains resource then
          some ⟨entry.1, share.1, share.2, entry.2.derivation.priority⟩
        else none : List Mover) → mover.demand = entry.1 := by
    intro entry mover member
    split at member
    · cases member
    · obtain ⟨share, -, kept⟩ := List.mem_filterMap.mp member
      split at kept
      · cases kept
      · split at kept
        · cases kept
          rfl
        · cases kept
  unfold moversOf
  apply (List.Perm.pairwise_iff symmetric (stableSort_perm Mover.key _)).mpr
  rw [List.pairwise_flatMap]
  constructor
  · intro entry _
    split
    · exact List.Pairwise.nil
    · -- Within one demand the paths differ.
      rw [List.pairwise_filterMap]
      apply entry.2.shares.ordered.imp
      intro first second below left leftKept right rightKept
      apply Or.inr
      split at leftKept
      · cases leftKept
      · split at leftKept
        · split at rightKept
          · cases rightKept
          · split at rightKept
            · cases leftKept
              cases rightKept
              exact ne_of_lt below
            · cases rightKept
        · cases leftKept
  · apply problem.demands.ordered.imp
    intro first second below left leftMember right rightMember
    apply Or.inl
    rw [ofEntry first left leftMember, ofEntry second right rightMember]
    exact ne_of_lt below

include accepted in
/-- One mover: what is granted on its other paths is what is taken from its share. -/
theorem relocate_mover {mover : Mover} {resource : ResourceId} {wanted : Int} {repair : Repair}
    (safe : repair.problem.Safe snapshot permille) (holds : mover.Holds repair.problem resource)
    (positive : 0 ≤ wanted) (bounded : wanted ≤ mover.granted) :
    let result := relocate mover resource wanted
      (repair.problem.demandOf mover.demand).derivation.eligiblePaths 0 repair
    let after := if 0 < result.1 then
      revoke result.2.problem mover.demand (repair.problem.pathOf mover.path) result.1
      else result.2.problem
    after.Safe snapshot permille ∧ repair.problem.Grows after mover.demand 0 (fun path =>
      resource ∈ (repair.problem.pathOf path).resources ∧ path ≠ mover.path) ∧
    0 ≤ result.1 ∧ (after.demandOf mover.demand).share mover.path = mover.granted - result.1 := by
  obtain ⟨granted, crossing, state, found, share⟩ := holds
  have held := DemandState.find?_of_share granted share
  obtain ⟨-, eligible, included⟩ := safe.consistent.shares _ state found _ _ held
  have below := safe.consistent.share_le_granted found held
  have maximum := safe.maximum _ state found
  have limit := safe.consistent.maximum_le accepted found
  have word : 2 * Limits.maxBandwidth ≤ int64Max := by decide
  have current : repair.problem.demandOf mover.demand = state := by
    rw [Problem.demandOf, found]
    rfl
  intro result after
  obtain ⟨consistent, grows, low, high⟩ := relocate_spec accepted (by omega : wanted ≤ int64Max)
    state.derivation.eligiblePaths 0 repair state safe.consistent found (fun _ member => member)
    included (le_refl _) positive (by omega)
  rw [← current, Int.sub_zero] at grows
  rw [← current] at consistent low high
  by_cases moved : 0 < result.1
  · obtain ⟨next, present, -, -, spared⟩ := grows.own state found
    have nextShare := spared mover.path crossing
    rw [share] at nextShare
    have nextHeld := DemandState.find?_of_share granted nextShare
    obtain ⟨candidate, named⟩ := safe.consistent.eligible_candidate accepted found eligible
    rw [← named] at nextHeld
    obtain ⟨done, shifts⟩ := revoke_spec consistent accepted present candidate nextHeld moved
      (high.trans bounded)
    rw [named] at shifts
    have total := grows.take_back shifts
    have value : after = revoke result.2.problem mover.demand (repair.problem.pathOf mover.path)
        result.1 := if_pos moved
    obtain ⟨last, final, shifted⟩ := shifts.moved next present
    have taken := shifted.share mover.path
    rw [if_pos rfl, nextShare] at taken
    rw [value, Problem.demandOf, final, Option.getD_some, taken]
    exact ⟨⟨done, total.maximum found safe.maximum (by omega)⟩, total, low, by omega⟩
  · have value : after = result.2.problem := if_neg moved
    have none : result.1 = 0 := by
      change 0 ≤ result.1 at low
      omega
    rw [value]
    change repair.problem.Grows result.2.problem mover.demand result.1 _ at grows
    obtain ⟨next, present, -, -, spared⟩ := grows.own state found
    have nextShare := spared mover.path crossing
    rw [share] at nextShare
    rw [none] at grows ⊢
    rw [Problem.demandOf, present, Option.getD_some, nextShare, Int.sub_zero]
    exact ⟨⟨consistent, grows.maximum found safe.maximum (by omega)⟩, grows.mono fun path kept => kept.1,
      le_refl 0, rfl⟩

/-- A mover other than the one just relocated keeps its share. -/
theorem Mover.Holds.after {mover other : Mover} {before after : Problem} {resource : ResourceId}
    (holds : other.Holds before resource) (differs : mover.Differs other)
    (paths : after.pathOf = before.pathOf)
    (grows : before.Grows after mover.demand 0 (fun path =>
      resource ∈ (before.pathOf path).resources ∧ path ≠ mover.path)) :
    other.Holds after resource := by
  obtain ⟨granted, crossing, state, found, share⟩ := holds
  refine ⟨granted, by rw [paths]; exact crossing, ?_⟩
  by_cases same : other.demand = mover.demand
  · have elsewhere : other.path ≠ mover.path := by
      rcases differs with demands | paths
      · exact absurd same.symm demands
      · exact paths.symm
    rw [same] at found ⊢
    obtain ⟨next, present, -, -, spared⟩ := grows.own state found
    exact ⟨next, present, (spared other.path ⟨crossing, elsewhere⟩).trans share⟩
  · refine ⟨state, ?_, share⟩
    rw [grows.others other.demand same]
    exact found

/-- What clearing a resource may do: every demand holds as much as before, and no share over the resource
grows. -/
structure Problem.Clears (before after : Problem) (resource : ResourceId) : Prop where
  paths : after.pathOf = before.pathOf
  granted : ∀ id, (after.demandOf id).granted = (before.demandOf id).granted
  recedes : ∀ id path, resource ∈ (before.pathOf path).resources →
    (after.demandOf id).share path ≤ (before.demandOf id).share path

theorem Problem.Clears.refl (problem : Problem) (resource : ResourceId) : problem.Clears problem resource :=
  ⟨rfl, fun _ => rfl, fun _ _ _ => le_refl _⟩

theorem Problem.Clears.trans {first second third : Problem} {resource : ResourceId}
    (early : first.Clears second resource) (late : second.Clears third resource) :
    first.Clears third resource := by
  refine ⟨late.paths.trans early.paths, fun id => (late.granted id).trans (early.granted id), ?_⟩
  intro id path crossing
  exact (late.recedes id path (by rw [early.paths]; exact crossing)).trans (early.recedes id path crossing)

/-- A move of one share off the resource, read off what it does to its demand. -/
theorem Problem.Grows.clears {before after : Problem} {mover : Mover} {resource : ResourceId} {moved : Int}
    (holds : mover.Holds before resource) (paths : after.pathOf = before.pathOf)
    (grows : before.Grows after mover.demand 0 (fun path =>
      resource ∈ (before.pathOf path).resources ∧ path ≠ mover.path))
    (left : (after.demandOf mover.demand).share mover.path = mover.granted - moved) (nonneg : 0 ≤ moved) :
    before.Clears after resource := by
  obtain ⟨-, -, state, found, share⟩ := holds
  have current : before.demandOf mover.demand = state := by
    rw [Problem.demandOf, found]
    rfl
  obtain ⟨next, present, -, granted, spared⟩ := grows.own state found
  have nextCurrent : after.demandOf mover.demand = next := by
    rw [Problem.demandOf, present]
    rfl
  have others : ∀ id, id ≠ mover.demand → after.demandOf id = before.demandOf id := by
    intro id different
    rw [Problem.demandOf, Problem.demandOf, grows.others id different]
  refine ⟨paths, ?_, ?_⟩
  · intro id
    by_cases own : id = mover.demand
    · rw [own, current, nextCurrent, granted, Int.add_zero]
    · rw [others id own]
  · intro id path crossing
    by_cases own : id = mover.demand
    · rw [own]
      by_cases same : path = mover.path
      · rw [same, left, current, share]
        omega
      · rw [current, nextCurrent, spared path ⟨crossing, same⟩]
    · rw [others id own]

include accepted in
theorem repairMovers_spec {resource : ResourceId} {maxIterations : Nat} (movers : List Mover) :
    ∀ outcome : RepairOutcome, outcome.repair.problem.Safe snapshot permille →
      (∀ mover ∈ movers, mover.Holds outcome.repair.problem resource) →
      movers.Pairwise Mover.Differs →
      (repairMovers resource maxIterations movers outcome).repair.problem.Safe snapshot permille ∧
        outcome.repair.problem.Clears (repairMovers resource maxIterations movers outcome).repair.problem
          resource := by
  induction movers with
  | nil =>
      intro outcome safe _ _
      exact ⟨safe, Problem.Clears.refl _ _⟩
  | cons mover rest ih =>
      intro outcome safe holds differ
      rw [List.pairwise_cons] at differ
      simp only [repairMovers]
      by_cases finished : outcome.deficit ≤ 0 ∨ maxIterations < outcome.repair.iterations
      · rw [if_pos finished]
        exact ⟨safe, Problem.Clears.refl _ _⟩
      · rw [if_neg finished]
        have moverHolds := holds mover List.mem_cons_self
        have positive := moverHolds.1
        obtain ⟨afterSafe, grows, nonneg, left⟩ := relocate_mover accepted safe moverHolds
          (by omega : 0 ≤ min outcome.deficit mover.granted) (by omega)
        have lookup := afterSafe.consistent.built.same_pathOf safe.consistent.built
        have later : ∀ other ∈ rest, other.Holds _ resource := fun other member =>
          (holds other (List.mem_cons_of_mem _ member)).after (differ.1 other member) lookup grows
        generalize relocate mover resource (min outcome.deficit mover.granted)
          (outcome.repair.problem.demandOf mover.demand).derivation.eligiblePaths 0
          outcome.repair = result at afterSafe later grows nonneg left lookup
        by_cases moved : 0 < result.1
        · rw [if_pos moved] at afterSafe later grows left lookup ⊢
          have step := grows.clears moverHolds lookup left nonneg
          obtain ⟨done, clears⟩ := ih ⟨outcome.deficit - result.1, true, { result.2 with
            problem := revoke result.2.problem mover.demand
              (outcome.repair.problem.pathOf mover.path) result.1 }⟩
            afterSafe later differ.2
          exact ⟨done, step.trans clears⟩
        · rw [if_neg moved] at afterSafe later grows left lookup ⊢
          have step := grows.clears moverHolds lookup left nonneg
          obtain ⟨done, clears⟩ := ih { outcome with repair := result.2 } afterSafe later differ.2
          exact ⟨done, step.trans clears⟩

include accepted in
theorem repairResource_spec {repair : Repair} (safe : repair.problem.Safe snapshot permille)
    (blocked : DemandId) (resource : ResourceId) (deficit : Int) (maxIterations : Nat) :
    (repairResource repair blocked resource deficit maxIterations).2.2.problem.Safe snapshot permille ∧
      repair.problem.Clears (repairResource repair blocked resource deficit maxIterations).2.2.problem
        resource :=
  repairMovers_spec accepted _ _ safe moversOf_holds (moversOf_differ _ _ _)

/-! Consolidation. -/

include accepted in
theorem drainInto_spec {demand : DemandId} {source : PathId} {moveable : Int}
    (small : moveable ≤ int64Max) (targets : List PathId) :
    ∀ (moved : Int) (problem : Problem) (state : DemandState),
      problem.Consistent snapshot permille → problem.demands.find? demand = some state →
      (∀ path ∈ targets, path ∈ state.derivation.eligiblePaths) → state.exclusion = [] →
      0 ≤ moved → moved ≤ moveable → state.granted + (moveable - moved) ≤ int64Max →
      let result := drainInto demand source moveable targets moved problem
      result.2.Consistent snapshot permille ∧
        problem.Grows result.2 demand (result.1 - moved) (fun path => path = source) ∧
        moved ≤ result.1 ∧ result.1 ≤ moveable := by
  induction targets with
  | nil =>
      intro moved problem state consistent found eligible included nonneg below fits
      have still := Problem.Grows.refl problem demand fun path => path = source
      simp only [drainInto, Int.sub_self]
      exact ⟨consistent, still, le_refl _, below⟩
  | cons target rest ih =>
      intro moved problem state consistent found eligible included nonneg below fits
      have still := Problem.Grows.refl problem demand fun path => path = source
      have later : ∀ other ∈ rest, other ∈ state.derivation.eligiblePaths := fun other member =>
        eligible other (List.mem_cons_of_mem _ member)
      obtain ⟨candidate, named⟩ := consistent.eligible_candidate accepted found
        (eligible target List.mem_cons_self)
      simp only [drainInto]
      by_cases finished : moveable ≤ moved ∨ target = source
      · rw [if_pos finished]
        simp only [Int.sub_self]
        exact ⟨consistent, still, le_refl _, below⟩
      rw [if_neg finished]
      generalize amount : min (pathHeadroom problem (problem.pathOf target)) (moveable - moved) = take
      by_cases full : take ≤ 0
      · rw [if_pos full]
        exact ih moved problem state consistent found later included nonneg below fits
      rw [if_neg full]
      obtain ⟨grantedConsistent, shifts⟩ := grant_spec consistent accepted found candidate
        (by rw [named]; exact eligible target List.mem_cons_self) included (by omega : 0 < take)
        (by omega) (by omega)
      obtain ⟨next, present, shifted⟩ := shifts.moved state found
      have kept := DemandState.fixed_parts shifted.fixed
      have limit := shifted.granted
      rw [satAdd_exact (by omega) (by omega)]
      generalize grant problem demand (problem.pathOf target) take = draining
        at grantedConsistent present shifts
      obtain ⟨done, grows, low, high⟩ := ih (moved + take) draining next grantedConsistent present
        (by rw [kept.1]; exact later) (by rw [kept.2.2]; exact included) (by omega) (by omega)
        (by omega)
      refine ⟨done, ?_, by omega, high⟩
      have elsewhere : ¬ (problem.pathOf target).id = source := by
        rw [named]
        exact fun same => finished (Or.inr same)
      have total := (shifts.grows elsewhere).trans grows
      have sum : take + ((drainInto demand source moveable rest (moved + take) draining).1 -
          (moved + take)) = (drainInto demand source moveable rest (moved + take) draining).1 - moved := by
        omega
      rw [sum] at total
      exact total

/-- One source: its share goes to the targets, and what they took is taken from it. -/
def drainSource (demand : DemandId) (preferred : List PathId) (source : PathId) (moveable : Int)
    (problem : Problem) : Problem :=
  let (moved, drained) := drainInto demand source moveable preferred 0 problem
  if 0 < moved then revoke drained demand (problem.pathOf source) moved else drained

/-- What a source loses is what its targets gained; the demand holds as much as before. -/
structure SourceDrained (before after : Problem) (snapshot : FabricSnapshot) (permille : Int)
    (demand : DemandId) (source : PathId) (moveable : Int) (drained : Int × Problem) : Prop where
  low : 0 ≤ drained.1
  high : drained.1 ≤ moveable
  consistent : drained.2.Consistent snapshot permille
  gained : before.Grows drained.2 demand drained.1 fun path => path = source
  safe : after.Safe snapshot permille
  kept : before.Grows after demand 0 fun _ => False
  lost : ∀ state next, drained.2.demands.find? demand = some state →
    after.demands.find? demand = some next →
    ∀ path, next.share path = state.share path + if path = source then -drained.1 else 0

include accepted in
theorem drainSource_spec {problem : Problem} (safe : problem.Safe snapshot permille) {demand : DemandId}
    {state : DemandState} (found : problem.demands.find? demand = some state) {preferred : List PathId}
    (eligible : ∀ path ∈ preferred, path ∈ state.derivation.eligiblePaths)
    {source : PathId} {moveable : Int}
    (held : state.shares.find? source = some moveable) :
    SourceDrained problem (drainSource demand preferred source moveable problem) snapshot
      permille demand source
      moveable (drainInto demand source moveable preferred 0 problem) := by
  obtain ⟨positive, eligibleSource, included⟩ :=
    safe.consistent.shares demand state found source moveable held
  have below := safe.consistent.share_le_granted found held
  have maximum := safe.maximum demand state found
  have limit := safe.consistent.maximum_le accepted found
  have word : 2 * Limits.maxBandwidth ≤ int64Max := by decide
  obtain ⟨consistent, grows, low, high⟩ :=
    drainInto_spec accepted (by omega : moveable ≤ int64Max) preferred 0
    problem state safe.consistent found eligible included (le_refl _) (by omega) (by omega)
  rw [Int.sub_zero] at grows
  unfold drainSource
  dsimp only
  generalize drainInto demand source moveable preferred 0 problem = result at consistent grows low high ⊢
  obtain ⟨next, present, -, -, spared⟩ := grows.own state found
  by_cases moved : 0 < result.1
  · rw [if_pos moved]
    have share : next.share source = moveable := by
      rw [spared source rfl, DemandState.share, held]
      rfl
    have nextHeld := DemandState.find?_of_share positive share
    obtain ⟨candidate, named⟩ := safe.consistent.eligible_candidate accepted found eligibleSource
    rw [← named] at nextHeld
    obtain ⟨done, shifts⟩ := revoke_spec consistent accepted present candidate nextHeld moved high
    have total := grows.take_back shifts
    rw [named] at shifts
    refine ⟨low, high, consistent, grows, ⟨done, total.maximum found safe.maximum (by omega)⟩,
      total.mono fun _ none => none.elim, ?_⟩
    intro before after beforeFound afterFound path
    obtain ⟨last, final, shifted⟩ := shifts.moved before beforeFound
    rw [afterFound, Option.some.injEq] at final
    rw [final]
    exact shifted.share path
  · rw [if_neg moved]
    have none : result.1 = 0 := by omega
    have total := grows
    rw [none] at total
    refine ⟨low, high, consistent, grows, ⟨consistent, total.maximum found safe.maximum (by omega)⟩,
      total.mono fun _ none => none.elim, ?_⟩
    intro before after beforeFound afterFound path
    rw [beforeFound, Option.some.injEq] at afterFound
    rw [none, ← afterFound]
    split <;> omega

include accepted in
theorem consolidateFrom_spec {demand : DemandId} {preferred : List PathId} (sources : List PathId) :
    ∀ (problem : Problem) (state : DemandState), problem.Safe snapshot permille →
      problem.demands.find? demand = some state →
      (∀ path ∈ preferred, path ∈ state.derivation.eligiblePaths) →
      (consolidateFrom demand preferred sources problem).Safe snapshot permille ∧
        problem.Grows (consolidateFrom demand preferred sources problem) demand 0 fun _ => False := by
  induction sources with
  | nil =>
      intro problem state safe _ _
      exact ⟨safe, Problem.Grows.refl problem demand _⟩
  | cons source rest ih =>
      intro problem state safe found eligible
      have current : problem.demandOf demand = state := by
        rw [Problem.demandOf, found]
        rfl
      simp only [consolidateFrom, current]
      cases held : state.shares.find? source with
      | none => exact ih problem state safe found eligible
      | some moveable =>
          have positive := (safe.consistent.shares demand state found source moveable held).1
          dsimp only
          rw [if_neg (by omega)]
          have step := drainSource_spec accepted safe found eligible held
          obtain ⟨next, present, fixed, -, -⟩ := step.kept.own state found
          obtain ⟨done, grows⟩ := ih _ next step.safe present (by
            rw [(DemandState.fixed_parts fixed).1]
            exact eligible)
          exact ⟨done, step.kept.trans grows⟩

include accepted in
theorem consolidatePaths_spec {problem : Problem} (safe : problem.Safe snapshot permille)
    {demand : DemandId} {state : DemandState} (found : problem.demands.find? demand = some state)
    {preferred : List PathId} (eligible : ∀ path ∈ preferred, path ∈ state.derivation.eligiblePaths) :
    (consolidatePaths problem demand preferred).Safe snapshot permille ∧
      problem.Grows (consolidatePaths problem demand preferred) demand 0 fun _ => False := by
  unfold consolidatePaths
  split
  · exact ⟨safe, Problem.Grows.refl problem demand _⟩
  · exact consolidateFrom_spec accepted _ problem state safe found eligible

end TrafficFabric
