import TrafficFabric.BuiltProblem

set_option autoImplicit false

/- What every move of the solver keeps: loads and grants are the exact sums of the shares,
shares are positive and lie on eligible paths, and no resource is loaded past its ceiling. -/
namespace TrafficFabric

/-- Bandwidth of the demand on the selected paths. -/
def DemandState.placed (state : DemandState) (uses : PathId → Bool) : Int :=
  state.shares.total fun path amount => if uses path then amount else 0

def DemandState.share (state : DemandState) (path : PathId) : Int :=
  (state.shares.find? path).getD 0

theorem DemandState.find?_of_share {state : DemandState} {path : PathId} {amount : Int}
    (positive : 0 < amount) (share : state.share path = amount) :
    state.shares.find? path = some amount := by
  unfold DemandState.share at share
  cases held : state.shares.find? path with
  | none =>
      rw [held, Option.getD_none] at share
      omega
  | some value =>
      rw [held, Option.getD_some] at share
      rw [share]

/-- Bandwidth of all demands on the paths that contain the resource. -/
def Problem.load (problem : Problem) (id : ResourceId) : Int :=
  problem.demands.total fun _ state =>
    state.placed fun path => decide (id ∈ (problem.pathOf path).resources)

structure Problem.Consistent (problem : Problem) (snapshot : FabricSnapshot) (permille : Int) :
    Prop where
  built : problem.BuiltFrom snapshot (TrafficFabric.derivation snapshot)
  ceilings : ∀ id resource, problem.resources.find? id = some resource →
    resource.ceiling = (recomputeCeiling resource permille).ceiling
  loads : ∀ id resource, problem.resources.find? id = some resource →
    resource.allocated = problem.load id
  within : ∀ id resource, problem.resources.find? id = some resource →
    resource.allocated ≤ resource.ceiling
  shares : ∀ id state, problem.demands.find? id = some state →
    ∀ path amount, state.shares.find? path = some amount →
      0 < amount ∧ path ∈ state.derivation.eligiblePaths ∧ state.exclusion = []
  grants : ∀ id state, problem.demands.find? id = some state →
    state.granted = state.placed fun _ => true

/-- No demand holds more than its maximum. -/
def Problem.WithinMaximum (problem : Problem) : Prop :=
  ∀ id state, problem.demands.find? id = some state → state.granted ≤ state.derivation.maximum

/-! Single shares. -/

namespace Problem.Consistent

variable {problem : Problem} {snapshot : FabricSnapshot} {permille : Int}
variable (consistent : problem.Consistent snapshot permille)

include consistent

theorem placed_nonneg {id : DemandId} {state : DemandState}
    (found : problem.demands.find? id = some state) (uses : PathId → Bool) :
    0 ≤ state.placed uses := by
  apply OrdMap.total_nonneg
  intro path amount held
  have positive := (consistent.shares id state found path amount held).1
  split <;> omega

theorem share_le_placed {id : DemandId} {state : DemandState} {path : PathId} {amount : Int}
    (found : problem.demands.find? id = some state)
    (held : state.shares.find? path = some amount) (uses : PathId → Bool)
    (used : uses path = true) : amount ≤ state.placed uses := by
  have part := OrdMap.le_total (fun path amount => if uses path then amount else 0) state.shares (by
    intro other share otherHeld
    have positive := (consistent.shares id state found other share otherHeld).1
    split <;> omega) path amount held
  rw [if_pos used] at part
  exact part

theorem share_le_granted {id : DemandId} {state : DemandState} {path : PathId} {amount : Int}
    (found : problem.demands.find? id = some state)
    (held : state.shares.find? path = some amount) : amount ≤ state.granted := by
  rw [consistent.grants id state found]
  exact consistent.share_le_placed found held _ rfl

theorem granted_nonneg {id : DemandId} {state : DemandState}
    (found : problem.demands.find? id = some state) : 0 ≤ state.granted := by
  rw [consistent.grants id state found]
  exact consistent.placed_nonneg found _

theorem load_nonneg (id : ResourceId) : 0 ≤ problem.load id := by
  apply OrdMap.total_nonneg
  intro demand state found
  exact consistent.placed_nonneg found _

/-- A share is part of the load of every resource on its path. -/
theorem share_le_load {id : DemandId} {state : DemandState} {path : PathId} {amount : Int}
    (found : problem.demands.find? id = some state)
    (held : state.shares.find? path = some amount) {resource : ResourceId}
    (used : resource ∈ (problem.pathOf path).resources) : amount ≤ problem.load resource := by
  have placed := consistent.share_le_placed found held
    (fun path => decide (resource ∈ (problem.pathOf path).resources)) (by simpa using used)
  have part := OrdMap.le_total (fun _ state => state.placed fun path =>
    decide (resource ∈ (problem.pathOf path).resources)) problem.demands
    (fun other otherState otherFound => consistent.placed_nonneg otherFound _) id state found
  exact placed.trans part

theorem ceiling_le (accepted : Accepted snapshot) {id : ResourceId} {resource : ResourceState}
    (found : problem.resources.find? id = some resource) :
    resource.ceiling ≤ Limits.maxBandwidth := by
  obtain ⟨source, member, -, same⟩ := consistent.built.resource_of accepted found
  have range := accepted.resource_range member
  obtain ⟨-, -, -, bound⟩ := publishedResidual_facts accepted member
  have available : resource.available = (publishedResidual snapshot source).available :=
    congrArg ResourceState.available same
  rw [consistent.ceilings id resource found]
  simp only [recomputeCeiling, ceilingOf]
  omega

theorem eligible_candidate (accepted : Accepted snapshot) {id : DemandId} {state : DemandState}
    (found : problem.demands.find? id = some state) {path : PathId}
    (eligible : path ∈ state.derivation.eligiblePaths) :
    problem.pathOf path ∈ planningPaths snapshot ∧ (problem.pathOf path).id = path := by
  obtain ⟨demand, -, -, same⟩ := consistent.built.demand_of accepted found
  rw [(DemandState.fixed_parts same).1] at eligible
  obtain ⟨facts, candidate, named, lookup⟩ := consistent.built.eligible_path accepted eligible
  rw [lookup]
  exact ⟨candidate, named⟩

theorem maximum_le (accepted : Accepted snapshot) {id : DemandId} {state : DemandState}
    (found : problem.demands.find? id = some state) :
    state.derivation.maximum ≤ Limits.maxBandwidth := by
  obtain ⟨demand, member, -, same⟩ := consistent.built.demand_of accepted found
  rw [(DemandState.fixed_parts same).1]
  exact (derivedDemand_maximum snapshot demand).le.trans (accepted.demand_range member).2.2.2

end Problem.Consistent

/-! Moves of one share. -/

/-- The share of one path grows by `delta` and nothing else changes. -/
structure DemandState.Shifts (before after : DemandState) (path : PathId) (delta : Int) : Prop where
  fixed : after.fixed = before.fixed
  placed : ∀ uses : PathId → Bool,
    after.placed uses = before.placed uses + if uses path then delta else 0
  granted : after.granted = before.granted + delta
  share : ∀ other, after.share other = before.share other + if other = path then delta else 0
  shares : ∀ other amount, after.shares.find? other = some amount →
    0 < amount ∧ (other = path ∨ before.shares.find? other = some amount)

def Problem.reshare (problem : Problem) (demand : DemandId) (path : PathFacts)
    (updateDemand : DemandState → DemandState) (updateResource : ResourceState → ResourceState) :
    Problem :=
  { problem with
    demands := problem.demands.modify demand updateDemand
    resources := path.resources.foldl (fun resources id => resources.modify id updateResource)
      problem.resources }

/-- A move of one share keeps the accounts exact when the resources of its path move by
the same amount and stay below their ceilings. -/
theorem Problem.Consistent.reshare {problem : Problem} {snapshot : FabricSnapshot}
    {permille delta : Int} (consistent : problem.Consistent snapshot permille)
    (accepted : Accepted snapshot) {demand : DemandId} {state : DemandState} {path : PathFacts}
    {updateDemand : DemandState → DemandState} {updateResource : ResourceState → ResourceState}
    (found : problem.demands.find? demand = some state)
    (candidate : path ∈ planningPaths snapshot)
    (eligible : path.id ∈ state.derivation.eligiblePaths) (included : state.exclusion = [])
    (shifts : state.Shifts (updateDemand state) path.id delta)
    (moved : ∀ id ∈ path.resources, ∀ resource, problem.resources.find? id = some resource →
      updateResource resource = { resource with allocated := resource.allocated + delta } ∧
        resource.allocated + delta ≤ resource.ceiling) :
    (problem.reshare demand path updateDemand updateResource).Consistent snapshot permille := by
  have distinct : path.resources.Nodup :=
    (planningPath_resources accepted candidate).1.imp ne_of_lt
  have resources : ∀ id resource,
      (problem.reshare demand path updateDemand updateResource).resources.find? id = some resource →
      ∃ before, problem.resources.find? id = some before ∧ resource = { before with
        allocated := before.allocated + if id ∈ path.resources then delta else 0 } ∧
        (id ∈ path.resources → before.allocated + delta ≤ before.ceiling) := by
    intro id resource present
    simp only [Problem.reshare, OrdMap.find?_foldl_modify updateResource path.resources distinct]
      at present
    by_cases used : id ∈ path.resources
    · rw [if_pos used, Option.map_eq_some_iff] at present
      obtain ⟨before, beforeFound, rfl⟩ := present
      obtain ⟨value, room⟩ := moved id used before beforeFound
      exact ⟨before, beforeFound, by rw [value, if_pos used], fun _ => room⟩
    · rw [if_neg used] at present
      exact ⟨resource, present, by rw [if_neg used, Int.add_zero], fun inside => absurd inside used⟩
  have demands : ∀ id after,
      (problem.reshare demand path updateDemand updateResource).demands.find? id = some after →
      (id = demand ∧ after = updateDemand state) ∨ problem.demands.find? id = some after := by
    intro id after present
    simp only [Problem.reshare, OrdMap.find?_modify] at present
    by_cases same : id = demand
    · rw [if_pos same, found, Option.map_some] at present
      exact Or.inl ⟨same, (Option.some.inj present).symm⟩
    · rw [if_neg same] at present
      exact Or.inr present
  have load : ∀ id, (problem.reshare demand path updateDemand updateResource).load id =
      problem.load id + if id ∈ path.resources then delta else 0 := by
    intro id
    have shifted := OrdMap.total_modify (fun _ state => state.placed fun path =>
      decide (id ∈ (problem.pathOf path).resources)) problem.demands demand updateDemand state found
    have placed := shifts.placed fun path => decide (id ∈ (problem.pathOf path).resources)
    rw [consistent.built.pathOf_eq accepted candidate] at placed
    simp only [decide_eq_true_eq] at placed
    change OrdMap.total (fun _ state => state.placed fun path =>
      decide (id ∈ (problem.pathOf path).resources)) (problem.demands.modify demand updateDemand) = _
    rw [shifted, placed]
    unfold Problem.load
    omega
  refine ⟨⟨consistent.built.terms, consistent.built.derivation, consistent.built.paths, ?_, ?_⟩,
    ?_, ?_, ?_, ?_, ?_⟩
  · intro id
    rw [← consistent.built.resources id]
    simp only [Problem.reshare, OrdMap.find?_foldl_modify updateResource path.resources distinct]
    by_cases used : id ∈ path.resources
    · rw [if_pos used]
      cases present : problem.resources.find? id with
      | none => rfl
      | some before =>
          simp only [Option.map_some, (moved id used before present).1]
          rfl
    · rw [if_neg used]
  · intro id
    rw [← consistent.built.demands id]
    simp only [Problem.reshare, OrdMap.find?_modify]
    by_cases same : id = demand
    · rw [if_pos same, same, found, Option.map_some, Option.map_some, Option.map_some, shifts.fixed]
    · rw [if_neg same]
  · intro id resource present
    obtain ⟨before, beforeFound, rfl, -⟩ := resources id resource present
    exact consistent.ceilings id before beforeFound
  · intro id resource present
    obtain ⟨before, beforeFound, rfl, -⟩ := resources id resource present
    rw [load, ← consistent.loads id before beforeFound]
  · intro id resource present
    obtain ⟨before, beforeFound, rfl, room⟩ := resources id resource present
    have bound := consistent.within id before beforeFound
    dsimp only
    by_cases used : id ∈ path.resources
    · rw [if_pos used]
      exact room used
    · rw [if_neg used]
      omega
  · intro id after present other amount held
    rcases demands id after present with ⟨rfl, rfl⟩ | unchanged
    · have kept := DemandState.fixed_parts shifts.fixed
      obtain ⟨positive, origin⟩ := shifts.shares other amount held
      rw [kept.1, kept.2.2]
      rcases origin with rfl | before
      · exact ⟨positive, eligible, included⟩
      · exact consistent.shares id state found other amount before
    · exact consistent.shares id after unchanged other amount held
  · intro id after present
    rcases demands id after present with ⟨rfl, rfl⟩ | unchanged
    · have placed := shifts.placed fun _ => true
      have before := consistent.grants id state found
      rw [shifts.granted, placed, before, if_pos rfl]
    · exact consistent.grants id after unchanged

/-- One demand's share of one path moves; the other demands keep their state. -/
structure Problem.Shifts (before after : Problem) (demand : DemandId) (path : PathId)
    (delta : Int) : Prop where
  moved : ∀ state, before.demands.find? demand = some state →
    ∃ next, after.demands.find? demand = some next ∧ state.Shifts next path delta
  others : ∀ other, other ≠ demand → after.demands.find? other = before.demands.find? other

theorem Problem.shifts_reshare {problem : Problem} {demand : DemandId} {state : DemandState}
    {path : PathFacts} {delta : Int} {updateDemand : DemandState → DemandState}
    (updateResource : ResourceState → ResourceState)
    (found : problem.demands.find? demand = some state)
    (shifts : state.Shifts (updateDemand state) path.id delta) :
    problem.Shifts (problem.reshare demand path updateDemand updateResource) demand path.id
      delta := by
  constructor
  · intro before present
    rw [found] at present
    cases present
    refine ⟨updateDemand state, ?_, shifts⟩
    simp [Problem.reshare, OrdMap.find?_modify, found]
  · intro other different
    simp [Problem.reshare, OrdMap.find?_modify, different]

/-! Granting. -/

theorem addShare_shifts {state : DemandState} {path : PathId} {amount : Int} (positive : 0 < amount)
    (shares : ∀ other held, state.shares.find? other = some held → 0 < held)
    (held : state.share path ≤ state.granted) (fits : state.granted + amount ≤ int64Max) :
    state.Shifts (state.addShare path amount) path amount := by
  have sum : satAdd (state.share path) amount = state.share path + amount :=
    satAdd_exact (by omega) (by omega)
  have before : 0 ≤ state.share path := by
    unfold DemandState.share
    cases present : state.shares.find? path with
    | none => exact le_refl _
    | some old => exact le_of_lt (shares path old present)
  have inserted : (state.addShare path amount).shares =
      state.shares.insert path (state.share path + amount) := by
    rw [← sum]
    rfl
  refine ⟨rfl, ?_, satAdd_exact (by omega) fits, ?_, ?_⟩
  · intro uses
    unfold DemandState.placed
    rw [inserted, OrdMap.total_insert]
    unfold DemandState.share
    cases state.shares.find? path with
    | none =>
        simp only [Option.getD_none, Option.elim_none]
        split <;> omega
    | some old =>
        simp only [Option.getD_some, Option.elim_some]
        split <;> omega
  · intro other
    unfold DemandState.share
    rw [inserted, OrdMap.find?_insert]
    by_cases same : other = path
    · simp [same, DemandState.share]
    · simp [same]
  · intro other value present
    rw [inserted, OrdMap.find?_insert] at present
    by_cases same : other = path
    · rw [if_pos same] at present
      have equal := Option.some.inj present
      exact ⟨by omega, Or.inl same⟩
    · rw [if_neg same] at present
      exact ⟨shares other value present, Or.inr present⟩

/-- A positive headroom is available on every resource of the path. -/
theorem headroomAlong_spec (resources : OrdMap ResourceId ResourceState) (ids : List ResourceId)
    (best : Int) (positive : 0 < headroomAlong resources ids best) :
    headroomAlong resources ids best ≤ best ∧
      ∀ id ∈ ids, ∃ resource, resources.find? id = some resource ∧
        headroomAlong resources ids best ≤ resource.ceiling - resource.allocated := by
  induction ids generalizing best with
  | nil =>
      simp only [headroomAlong] at positive ⊢
      refine ⟨?_, fun id member => absurd member List.not_mem_nil⟩
      split at positive
      · omega
      · rename_i finite
        rw [if_neg finite]
  | cons id rest ih =>
      cases present : resources.find? id with
      | none => simp [headroomAlong, present] at positive
      | some resource =>
          simp only [headroomAlong, present] at positive ⊢
          generalize smaller : (if resource.ceiling - resource.allocated < best then
            resource.ceiling - resource.allocated else best) = lower at positive ⊢
          have bounds : lower ≤ best ∧ lower ≤ resource.ceiling - resource.allocated := by
            rw [← smaller]
            split <;> omega
          by_cases exhausted : lower ≤ 0
          · rw [if_pos exhausted] at positive
            omega
          · rw [if_neg exhausted] at positive ⊢
            obtain ⟨bound, later⟩ := ih lower positive
            refine ⟨by omega, ?_⟩
            intro other member
            rcases List.mem_cons.mp member with rfl | inside
            · exact ⟨resource, present, by omega⟩
            · exact later other inside

theorem grant_spec {problem : Problem} {snapshot : FabricSnapshot} {permille amount : Int}
    (consistent : problem.Consistent snapshot permille) (accepted : Accepted snapshot)
    {demand : DemandId} {state : DemandState} {path : PathFacts}
    (found : problem.demands.find? demand = some state)
    (candidate : path ∈ planningPaths snapshot)
    (eligible : path.id ∈ state.derivation.eligiblePaths) (included : state.exclusion = [])
    (positive : 0 < amount) (room : amount ≤ pathHeadroom problem path)
    (fits : state.granted + amount ≤ int64Max) :
    (grant problem demand path amount).Consistent snapshot permille ∧
      problem.Shifts (grant problem demand path amount) demand path.id amount := by
  have held : state.share path.id ≤ state.granted := by
    have granted := consistent.granted_nonneg found
    unfold DemandState.share
    cases present : state.shares.find? path.id with
    | none => exact granted
    | some old => exact consistent.share_le_granted found present
  have shifts := addShare_shifts positive
    (fun other old present => (consistent.shares demand state found other old present).1) held fits
  have headroom := (headroomAlong_spec problem.resources path.resources kInfinite
    (by unfold pathHeadroom at room; omega)).2
  have limit : Limits.maxBandwidth ≤ int64Max := by decide
  have shape : grant problem demand path amount = problem.reshare demand path
      (fun state => state.addShare path.id amount)
      (fun resource => { resource with allocated := satAdd resource.allocated amount }) := by
    unfold grant
    rw [if_neg (by omega)]
    rfl
  rw [shape]
  refine ⟨?_, Problem.shifts_reshare _ found shifts⟩
  apply consistent.reshare accepted found candidate eligible included shifts
  intro id used resource present
  obtain ⟨other, otherPresent, bound⟩ := headroom id used
  rw [present] at otherPresent
  cases otherPresent
  have ceiling := consistent.ceiling_le accepted present
  change pathHeadroom problem path ≤ _ at bound
  rw [satAdd_exact (by omega) (by omega)]
  exact ⟨rfl, by omega⟩

/-! Revoking. -/

theorem takeShare_shifts {state : DemandState} {path : PathId} {held taken : Int}
    (shares : ∀ other amount, state.shares.find? other = some amount → 0 < amount)
    (present : state.shares.find? path = some held) (enough : taken ≤ held)
    (granted : held ≤ state.granted) :
    state.Shifts (state.takeShare path held taken) path (-taken) := by
  refine ⟨rfl, ?_, ?_, ?_, ?_⟩
  · intro uses
    unfold DemandState.placed DemandState.takeShare
    by_cases emptied : held - taken = 0
    · simp only [if_pos emptied, OrdMap.total_erase, present, Option.elim_some]
      split <;> omega
    · simp only [if_neg emptied, OrdMap.total_insert, present, Option.elim_some]
      split <;> omega
  · simp only [DemandState.takeShare]
    omega
  · intro other
    unfold DemandState.share DemandState.takeShare
    by_cases emptied : held - taken = 0
    · simp only [if_pos emptied, OrdMap.find?_erase]
      by_cases same : other = path
      · simp only [same, ↓reduceIte, present, Option.getD_none, Option.getD_some]
        omega
      · simp [same]
    · simp only [if_neg emptied, OrdMap.find?_insert]
      by_cases same : other = path
      · simp only [same, ↓reduceIte, present, Option.getD_some]
        omega
      · simp [same]
  · intro other amount kept
    unfold DemandState.takeShare at kept
    by_cases emptied : held - taken = 0
    · simp only [if_pos emptied, OrdMap.find?_erase] at kept
      by_cases same : other = path
      · simp [same] at kept
      · rw [if_neg same] at kept
        exact ⟨shares other amount kept, Or.inr kept⟩
    · simp only [if_neg emptied, OrdMap.find?_insert] at kept
      by_cases same : other = path
      · rw [if_pos same] at kept
        have equal := Option.some.inj kept
        exact ⟨by omega, Or.inl same⟩
      · rw [if_neg same] at kept
        exact ⟨shares other amount kept, Or.inr kept⟩

theorem revoke_spec {problem : Problem} {snapshot : FabricSnapshot} {permille amount held : Int}
    (consistent : problem.Consistent snapshot permille) (accepted : Accepted snapshot)
    {demand : DemandId} {state : DemandState} {path : PathFacts}
    (found : problem.demands.find? demand = some state)
    (candidate : path ∈ planningPaths snapshot)
    (present : state.shares.find? path.id = some held)
    (positive : 0 < amount) (enough : amount ≤ held) :
    (revoke problem demand path amount).Consistent snapshot permille ∧
      problem.Shifts (revoke problem demand path amount) demand path.id (-amount) := by
  obtain ⟨-, eligible, included⟩ := consistent.shares demand state found path.id held present
  have shifts := takeShare_shifts
    (fun other old kept => (consistent.shares demand state found other old kept).1) present enough
    (consistent.share_le_granted found present)
  have current : (problem.demandOf demand).shares.find? path.id = some held := by
    unfold Problem.demandOf
    rw [found]
    exact present
  have shape : revoke problem demand path amount = problem.reshare demand path
      (fun state => state.takeShare path.id held amount)
      (fun resource => { resource with allocated := max 0 (resource.allocated - amount) }) := by
    unfold revoke
    rw [if_neg (by omega), current]
    dsimp only
    rw [min_eq_left enough]
    rfl
  rw [shape]
  refine ⟨?_, Problem.shifts_reshare _ found shifts⟩
  apply consistent.reshare accepted found candidate eligible included shifts
  intro id used resource presentResource
  have loads := consistent.loads id resource presentResource
  have within := consistent.within id resource presentResource
  rw [← consistent.built.pathOf_eq accepted candidate] at used
  have part := consistent.share_le_load found present used
  have value : max 0 (resource.allocated - amount) = resource.allocated + -amount := by omega
  exact ⟨by rw [value], by omega⟩

/-! Placing. -/

structure Problem.Safe (problem : Problem) (snapshot : FabricSnapshot) (permille : Int) : Prop where
  consistent : problem.Consistent snapshot permille
  maximum : problem.WithinMaximum

/-- One demand gains bandwidth, on none of the spared paths; the other demands keep their
state. -/
structure Problem.Grows (before after : Problem) (demand : DemandId) (added : Int)
    (spared : PathId → Prop) : Prop where
  own : ∀ state, before.demands.find? demand = some state → ∃ next,
    after.demands.find? demand = some next ∧ next.fixed = state.fixed ∧
      next.granted = state.granted + added ∧
      ∀ path, spared path → next.share path = state.share path
  others : ∀ other, other ≠ demand → after.demands.find? other = before.demands.find? other

theorem Problem.Grows.refl (problem : Problem) (demand : DemandId) (spared : PathId → Prop) :
    problem.Grows problem demand 0 spared :=
  ⟨fun state found => ⟨state, found, rfl, (Int.add_zero _).symm, fun _ _ => rfl⟩, fun _ _ => rfl⟩

theorem Problem.Shifts.grows {before after : Problem} {demand : DemandId} {path : PathId}
    {delta : Int} (shifts : before.Shifts after demand path delta) {spared : PathId → Prop}
    (used : ¬ spared path) : before.Grows after demand delta spared := by
  refine ⟨?_, shifts.others⟩
  intro state found
  obtain ⟨next, present, moved⟩ := shifts.moved state found
  refine ⟨next, present, moved.fixed, moved.granted, ?_⟩
  intro other kept
  have different : other ≠ path := fun same => used (same ▸ kept)
  rw [moved.share, if_neg different, Int.add_zero]

theorem Problem.Grows.trans {first second third : Problem} {demand : DemandId} {left right : Int}
    {spared : PathId → Prop} (early : first.Grows second demand left spared)
    (late : second.Grows third demand right spared) :
    first.Grows third demand (left + right) spared := by
  constructor
  · intro state found
    obtain ⟨middle, present, fixed, granted, shares⟩ := early.own state found
    obtain ⟨next, nextPresent, nextFixed, nextGranted, nextShares⟩ := late.own middle present
    refine ⟨next, nextPresent, nextFixed.trans fixed, ?_, ?_⟩
    · rw [nextGranted, granted]
      omega
    · intro path kept
      rw [nextShares path kept, shares path kept]
  · intro other different
    rw [late.others other different, early.others other different]

theorem Problem.Grows.mono {before after : Problem} {demand : DemandId} {added : Int}
    {spared fewer : PathId → Prop} (grows : before.Grows after demand added spared)
    (included : ∀ path, fewer path → spared path) : before.Grows after demand added fewer := by
  refine ⟨?_, grows.others⟩
  intro state found
  obtain ⟨next, present, fixed, granted, shares⟩ := grows.own state found
  exact ⟨next, present, fixed, granted, fun path kept => shares path (included path kept)⟩

theorem Problem.Grows.maximum {before after : Problem} {demand : DemandId} {added : Int}
    {spared : PathId → Prop} {state : DemandState} (grows : before.Grows after demand added spared)
    (found : before.demands.find? demand = some state) (maximum : before.WithinMaximum)
    (room : state.granted + added ≤ state.derivation.maximum) : after.WithinMaximum := by
  intro id next present
  by_cases same : id = demand
  · subst same
    obtain ⟨grown, grownPresent, fixed, granted, -⟩ := grows.own state found
    rw [present] at grownPresent
    cases grownPresent
    rw [granted, (DemandState.fixed_parts fixed).1]
    exact room
  · rw [grows.others id same] at present
    exact maximum id next present

/-- What is taken from one share after it was granted elsewhere leaves the demand with as
much as before. -/
theorem Problem.Grows.take_back {first second third : Problem} {demand : DemandId} {path : PathId}
    {amount : Int} {spared : PathId → Prop} (granted : first.Grows second demand amount spared)
    (revoked : second.Shifts third demand path (-amount)) :
    first.Grows third demand 0 (fun other => spared other ∧ other ≠ path) := by
  have early : first.Grows second demand amount (fun other => spared other ∧ other ≠ path) :=
    granted.mono fun _ kept => kept.1
  have late : second.Grows third demand (-amount) (fun other => spared other ∧ other ≠ path) :=
    revoked.grows fun kept => kept.2 rfl
  have total := early.trans late
  rw [Int.add_right_neg] at total
  exact total

section Place

variable {snapshot : FabricSnapshot} {permille : Int} (accepted : Accepted snapshot)

include accepted

theorem placeAlong_spec {demand : DemandId} {need : Int} (small : need ≤ int64Max)
    (order : List PathId) : ∀ (placed : Int) (problem : Problem) (state : DemandState),
      problem.Consistent snapshot permille → problem.demands.find? demand = some state →
      (∀ path ∈ order, path ∈ state.derivation.eligiblePaths) → state.exclusion = [] →
      0 ≤ placed → placed ≤ need → state.granted + (need - placed) ≤ int64Max →
      let result := placeAlong demand need order placed problem
      result.2.Consistent snapshot permille ∧
        problem.Grows result.2 demand (result.1 - placed) (fun _ => False) ∧ placed ≤ result.1 ∧
          result.1 ≤ need := by
  induction order with
  | nil =>
      intro placed problem state consistent found eligible included nonneg below fits
      have still := Problem.Grows.refl problem demand fun _ => False
      simp only [placeAlong, Int.sub_self]
      exact ⟨consistent, still, le_refl _, below⟩
  | cons path rest ih =>
      intro placed problem state consistent found eligible included nonneg below fits
      have still := Problem.Grows.refl problem demand fun _ => False
      have later : ∀ other ∈ rest, other ∈ state.derivation.eligiblePaths := fun other member =>
        eligible other (List.mem_cons_of_mem _ member)
      obtain ⟨candidate, named⟩ := consistent.eligible_candidate accepted found
        (eligible path List.mem_cons_self)
      simp only [placeAlong]
      by_cases enough : need ≤ placed
      · rw [if_pos enough]
        simp only [Int.sub_self]
        exact ⟨consistent, still, le_refl _, below⟩
      · rw [if_neg enough]
        by_cases full : pathHeadroom problem (problem.pathOf path) ≤ 0
        · rw [if_pos full]
          exact ih placed problem state consistent found later included nonneg below fits
        · rw [if_neg full]
          generalize amount : min (pathHeadroom problem (problem.pathOf path)) (need - placed) = take
          obtain ⟨grantedConsistent, shifts⟩ := grant_spec consistent accepted found candidate
            (by rw [named]; exact eligible path List.mem_cons_self) included (by omega : 0 < take)
            (by omega) (by omega)
          obtain ⟨next, present, moved⟩ := shifts.moved state found
          have kept := DemandState.fixed_parts moved.fixed
          have limit := moved.granted
          rw [satAdd_exact (by omega) (by omega)]
          obtain ⟨done, grows, low, high⟩ := ih (placed + take)
            (grant problem demand (problem.pathOf path) take) next grantedConsistent present
            (by rw [kept.1]; exact later) (by rw [kept.2.2]; exact included) (by omega) (by omega)
            (by omega)
          refine ⟨done, ?_, by omega, high⟩
          have total := (shifts.grows not_false).trans grows
          have sum : take + ((placeAlong demand need rest (placed + take)
              (grant problem demand (problem.pathOf path) take)).1 - (placed + take)) =
              (placeAlong demand need rest (placed + take)
                (grant problem demand (problem.pathOf path) take)).1 - placed := by omega
          rw [sum] at total
          exact total

theorem place_safe {problem : Problem} (safe : problem.Safe snapshot permille) {demand : DemandId}
    {state : DemandState} (found : problem.demands.find? demand = some state)
    (included : state.exclusion = []) {order : List PathId}
    (eligible : ∀ path ∈ order, path ∈ state.derivation.eligiblePaths) (need : Int) :
    (place problem demand order need).2.Safe snapshot permille := by
  have current : problem.demandOf demand = state := by
    unfold Problem.demandOf
    rw [found]
    rfl
  have maximum := safe.consistent.maximum_le accepted found
  have granted := safe.consistent.granted_nonneg found
  have limit : Limits.maxBandwidth ≤ int64Max := by decide
  unfold place
  rw [current]
  dsimp only
  split
  · exact safe
  · rename_i open_
    generalize wanted : (if state.derivation.maximum - state.granted < need then
      state.derivation.maximum - state.granted else need) = goal
    have bounded : goal ≤ state.derivation.maximum - state.granted := by
      rw [← wanted]
      split <;> omega
    by_cases nothing : goal ≤ 0
    · -- The loop stops before its first path.
      have idle : (placeAlong demand goal order 0 problem).2 = problem := by
        cases order with
        | nil => rfl
        | cons path rest => simp [placeAlong, nothing]
      rw [idle]
      exact safe
    · obtain ⟨consistent, grows, -, high⟩ := placeAlong_spec accepted (by omega : goal ≤ int64Max)
        order 0 problem state safe.consistent found eligible included (le_refl _) (by omega)
        (by omega)
      exact ⟨consistent, grows.maximum found safe.maximum (by omega)⟩

end Place

end TrafficFabric
