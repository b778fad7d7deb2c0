import TrafficFabric.Construction
import Mathlib.Data.Finset.Card

set_option autoImplicit false

/- Consolidation and the number of paths. A source whose share goes whole to a path closes one path for at
most one that it opens; a share that is split over paths which carried nothing opens more than it closes. -/
namespace TrafficFabric

/-! The paths of a demand. -/

/-- The number of positive shares. -/
def DemandState.positiveShares (state : DemandState) : Nat :=
  (state.shares.entries.filter fun share => decide (0 < share.2)).length

def DemandState.support (state : DemandState) : Finset PathId :=
  (state.shares.keys.filter fun path => decide (0 < state.share path)).toFinset

theorem DemandState.mem_support (state : DemandState) (path : PathId) :
    path ∈ state.support ↔ 0 < state.share path := by
  unfold DemandState.support
  rw [List.mem_toFinset, List.mem_filter, decide_eq_true_eq, and_iff_right_iff_imp]
  intro positive
  have held := DemandState.find?_of_share positive rfl
  rw [OrdMap.mem_keys_iff, held]
  rfl

theorem DemandState.positiveShares_eq (state : DemandState) :
    state.positiveShares = state.support.card := by
  have same : state.shares.keys.filter (fun path => decide (0 < state.share path)) =
      (state.shares.entries.filter fun share => decide (0 < share.2)).map Prod.fst := by
    unfold OrdMap.keys
    rw [List.filter_map]
    congr 1
    apply List.filter_congr
    intro share listed
    have held := (OrdMap.mem_entries_iff state.shares share.1 share.2).mp listed
    simp [DemandState.share, held]
  have distinct := state.shares.keys_nodup.filter fun path => decide (0 < state.share path)
  unfold DemandState.positiveShares DemandState.support
  rw [List.toFinset_card_of_nodup distinct, same, List.length_map]

/-! One source. -/

/-- The share opens one path at most, and then it is used up. The flag tells whether it has opened one. -/
def Pours (demand : DemandId) (source : PathId) (moveable : Int) : List PathId → Bool → Int → Problem → Prop
  | [], opened, moved, _ => opened = true → moveable ≤ moved
  | target :: rest, opened, moved, problem =>
      if moveable ≤ moved then True
      else if target = source then opened = false
      else
        let path := problem.pathOf target
        let take := min (pathHeadroom problem path) (moveable - moved)
        if take ≤ 0 then Pours demand source moveable rest opened moved problem
        else if 0 < (problem.demandOf demand).share target then
          Pours demand source moveable rest opened (satAdd moved take) (grant problem demand path take)
        else opened = false ∧
          Pours demand source moveable rest true (satAdd moved take) (grant problem demand path take)

instance Pours.decidable (demand : DemandId) (source : PathId) (moveable : Int) :
    ∀ (targets : List PathId) (opened : Bool) (moved : Int) (problem : Problem),
      Decidable (Pours demand source moveable targets opened moved problem)
  | [], opened, moved, _ => inferInstanceAs (Decidable (opened = true → moveable ≤ moved))
  | target :: rest, opened, moved, problem =>
      have _ := Pours.decidable demand source moveable rest
      inferInstanceAs
        (Decidable (if moveable ≤ moved then True else if target = source then opened = false else
        let path := problem.pathOf target
        let take := min (pathHeadroom problem path) (moveable - moved)
        if take ≤ 0 then Pours demand source moveable rest opened moved problem
        else if 0 < (problem.demandOf demand).share target then
          Pours demand source moveable rest opened (satAdd moved take) (grant problem demand path take)
        else opened = false ∧
          Pours demand source moveable rest true (satAdd moved take) (grant problem demand path take)))

/-- Every source that the loop comes to pours its share. -/
def Gathers (demand : DemandId) (preferred : List PathId) : List PathId → Problem → Prop
  | [], _ => True
  | source :: rest, problem =>
      match (problem.demandOf demand).shares.find? source with
      | none => Gathers demand preferred rest problem
      | some moveable =>
          Pours demand source moveable preferred false 0 problem ∧
            Gathers demand preferred rest (drainSource demand preferred source moveable problem)

instance Gathers.decidable (demand : DemandId) (preferred : List PathId) :
    ∀ (sources : List PathId) (problem : Problem), Decidable (Gathers demand preferred sources problem)
  | [], _ => inferInstanceAs (Decidable True)
  | source :: rest, problem =>
      have _ := Gathers.decidable demand preferred rest
      match held : (problem.demandOf demand).shares.find? source with
      | none => decidable_of_iff (Gathers demand preferred rest problem) (by rw [Gathers, held])
      | some moveable => decidable_of_iff (Pours demand source moveable preferred false 0 problem ∧
          Gathers demand preferred rest (drainSource demand preferred source moveable problem))
          (by rw [Gathers, held])

section Sources

variable {snapshot : FabricSnapshot} {permille : Int} (accepted : Accepted snapshot)

include accepted

/-- A poured share opens no path, or one, and leaves its source; no other once it has opened one. -/
theorem drainInto_support {demand : DemandId} {source : PathId} {moveable : Int}
    (small : moveable ≤ int64Max) (targets : List PathId) :
    ∀ (opened : Bool) (moved : Int) (problem : Problem) (state : DemandState),
      problem.Consistent snapshot permille → problem.demands.find? demand = some state →
      (∀ path ∈ targets, path ∈ state.derivation.eligiblePaths) →
      state.exclusion = [] → 0 ≤ moved → moved ≤ moveable → state.granted + (moveable - moved) ≤ int64Max →
      Pours demand source moveable targets opened moved problem →
      ∃ next, (drainInto demand source moveable targets moved problem).2.demands.find? demand = some next ∧
        (next.support ⊆ state.support ∧
            (opened = true → moveable ≤ (drainInto demand source moveable targets moved problem).1) ∨
          opened = false ∧ moveable ≤ (drainInto demand source moveable targets moved problem).1 ∧
            ∃ target, next.support ⊆ insert target state.support) := by
  induction targets with
  | nil =>
      intro opened moved problem state consistent found eligible included nonneg below fits pours
      exact ⟨state, found, Or.inl ⟨Finset.Subset.refl _, pours⟩⟩
  | cons target rest ih =>
      intro opened moved problem state consistent found eligible included nonneg below fits pours
      have later : ∀ other ∈ rest, other ∈ state.derivation.eligiblePaths := fun other member =>
        eligible other (List.mem_cons_of_mem _ member)
      obtain ⟨candidate, named⟩ := consistent.eligible_candidate accepted found
        (eligible target List.mem_cons_self)
      have current : problem.demandOf demand = state := by
        rw [Problem.demandOf, found]
        rfl
      rw [Pours, current] at pours
      rw [drainInto]
      dsimp only at pours ⊢
      by_cases finished : moveable ≤ moved
      · rw [if_pos (Or.inl finished)]
        exact ⟨state, found, Or.inl ⟨Finset.Subset.refl _, fun _ => finished⟩⟩
      rw [if_neg finished] at pours
      by_cases reached : target = source
      · rw [if_pos reached] at pours
        rw [if_pos (Or.inr reached), pours]
        exact ⟨state, found, Or.inl ⟨Finset.Subset.refl _, fun done => Bool.noConfusion done⟩⟩
      rw [if_neg reached] at pours
      rw [if_neg (not_or.mpr ⟨finished, reached⟩)]
      generalize amount : min (pathHeadroom problem (problem.pathOf target)) (moveable - moved) = take
        at pours ⊢
      by_cases full : take ≤ 0
      · rw [if_pos full] at pours ⊢
        exact ih opened moved problem state consistent found later included nonneg below fits pours
      rw [if_neg full] at pours ⊢
      obtain ⟨grantedConsistent, shifts⟩ := grant_spec consistent accepted found candidate
        (by rw [named]; exact eligible target List.mem_cons_self) included (by omega : 0 < take)
        (by omega) (by omega)
      obtain ⟨next, present, shifted⟩ := shifts.moved state found
      have kept := DemandState.fixed_parts shifted.fixed
      have limit := shifted.granted
      have widened : next.support ⊆ insert target state.support := by
        intro path carries
        rw [DemandState.mem_support, shifted.share path, named] at carries
        rw [Finset.mem_insert, DemandState.mem_support]
        by_cases same : path = target
        · exact Or.inl same
        · rw [if_neg same] at carries
          exact Or.inr (by omega)
      have rest := fun flag => ih flag (moved + take) _ next grantedConsistent present
        (by rw [kept.1]; exact later) (by rw [kept.2.2]; exact included) (by omega) (by omega) (by omega)
      rw [satAdd_exact (by omega) (by omega)] at pours ⊢
      by_cases carried : 0 < state.share target
      · rw [if_pos carried] at pours
        rw [Finset.insert_eq_of_mem ((DemandState.mem_support state target).mpr carried)] at widened
        obtain ⟨last, final, outcome⟩ := rest opened pours
        refine ⟨last, final, ?_⟩
        rcases outcome with ⟨none, used⟩ | ⟨first, used, path, one⟩
        · exact Or.inl ⟨none.trans widened, used⟩
        · exact Or.inr ⟨first, used, path, one.trans (Finset.insert_subset_insert path widened)⟩
      · -- The target is opened: what is left goes to paths in use.
        rw [if_neg carried] at pours
        obtain ⟨first, others⟩ := pours
        obtain ⟨last, final, outcome⟩ := rest true others
        refine ⟨last, final, Or.inr ⟨first, ?_⟩⟩
        rcases outcome with ⟨none, used⟩ | ⟨again, -⟩
        · exact ⟨used rfl, target, none.trans widened⟩
        · cases again

/-- A source that pours its share leaves no more paths behind than there were. -/
theorem drainSource_support {problem : Problem} (safe : problem.Safe snapshot permille) {demand : DemandId}
    {state : DemandState} (found : problem.demands.find? demand = some state) {preferred : List PathId}
    (eligible : ∀ path ∈ preferred, path ∈ state.derivation.eligiblePaths)
    {source : PathId} {moveable : Int}
    (held : state.shares.find? source = some moveable)
    (pours : Pours demand source moveable preferred false 0 problem) :
    ∃ next, (drainSource demand preferred source moveable problem).demands.find? demand = some next ∧
      next.fixed = state.fixed ∧ next.support.card ≤ state.support.card := by
  obtain ⟨positive, -, included⟩ := safe.consistent.shares demand state found source moveable held
  have below := safe.consistent.share_le_granted found held
  have maximum := safe.maximum demand state found
  have limit := safe.consistent.maximum_le accepted found
  have word : 2 * Limits.maxBandwidth ≤ int64Max := by decide
  have step := drainSource_spec accepted safe found eligible held
  obtain ⟨next, present, fixed, -, -⟩ := step.kept.own state found
  obtain ⟨drained, drainedFound, opened⟩ :=
    drainInto_support accepted (by omega : moveable ≤ int64Max) preferred
    false 0 problem state safe.consistent found eligible included (le_refl 0) (by omega) (by omega) pours
  obtain ⟨same, sameFound, -, -, spared⟩ := step.gained.own state found
  rw [drainedFound, Option.some.injEq] at sameFound
  subst sameFound
  have lost := step.lost drained next drainedFound present
  have low := step.low
  have shrinks : next.support ⊆ drained.support := by
    intro path carries
    rw [DemandState.mem_support, lost path] at carries
    rw [DemandState.mem_support]
    split at carries <;> omega
  refine ⟨next, present, fixed, ?_⟩
  rcases opened with ⟨none, -⟩ | ⟨-, whole, target, one⟩
  · exact Finset.card_le_card (shrinks.trans none)
  · -- The source is closed for the target that was opened.
    have held : source ∈ state.support := by
      rw [DemandState.mem_support, DemandState.share, held]
      exact positive
    have share : drained.share source = moveable := by
      rw [spared source rfl, DemandState.share, ‹state.shares.find? source = some moveable›]
      rfl
    have closed : source ∉ next.support := by
      rw [DemandState.mem_support, lost source, if_pos rfl, share]
      omega
    have within : next.support ⊆ (insert target state.support).erase source := by
      intro path carries
      rw [Finset.mem_erase]
      exact ⟨fun same => closed (same ▸ carries), one (shrinks carries)⟩
    have size := Finset.card_le_card within
    rw [Finset.card_erase_of_mem (Finset.mem_insert_of_mem held)] at size
    have inserted := Finset.card_insert_le target state.support
    omega

theorem consolidateFrom_support {demand : DemandId} {preferred : List PathId} (sources : List PathId) :
    ∀ (problem : Problem) (state : DemandState), problem.Safe snapshot permille →
      problem.demands.find? demand = some state →
      (∀ path ∈ preferred, path ∈ state.derivation.eligiblePaths) →
        Gathers demand preferred sources problem →
      ∃ next, (consolidateFrom demand preferred sources problem).demands.find? demand = some next ∧
        next.support.card ≤ state.support.card := by
  induction sources with
  | nil =>
      intro problem state safe found eligible gathers
      exact ⟨state, found, le_refl _⟩
  | cons source rest ih =>
      intro problem state safe found eligible gathers
      have current : problem.demandOf demand = state := by
        rw [Problem.demandOf, found]
        rfl
      rw [Gathers, current] at gathers
      rw [consolidateFrom, current]
      cases held : state.shares.find? source with
      | none =>
          rw [held] at gathers
          exact ih problem state safe found eligible gathers
      | some moveable =>
          rw [held] at gathers
          have positive := (safe.consistent.shares demand state found source moveable held).1
          obtain ⟨pours, later⟩ := gathers
          obtain ⟨next, present, fixed, fewer⟩ :=
            drainSource_support accepted safe found eligible held pours
          have step := drainSource_spec accepted safe found eligible held
          obtain ⟨last, final, fewest⟩ := ih _ next step.safe present (by
            rw [(DemandState.fixed_parts fixed).1]
            exact eligible) later
          dsimp only
          rw [if_neg (by omega)]
          exact ⟨last, final, fewest.trans fewer⟩

end Sources

/-! The whole pass. -/

/-- The demand keeps its bandwidth, every load stays within its ceiling, and no other demand changes. -/
structure Rearranges (before after : Problem) (demand : DemandId) : Prop where
  granted : (after.demandOf demand).granted = (before.demandOf demand).granted
  loads : ∀ id resource, after.resources.find? id = some resource →
    resource.allocated = after.load id ∧ resource.allocated ≤ resource.ceiling
  others : ∀ other, other ≠ demand → after.demands.find? other = before.demands.find? other

/-- The pass rearranges the shares of the demand only, and ends with no more of them when there are fewer
than two or no source that it comes to opens more paths than it closes. -/
theorem consolidatePaths_fewer {snapshot : FabricSnapshot} {permille : Int} (accepted : Accepted snapshot)
    {problem : Problem} (safe : problem.Safe snapshot permille) {demand : DemandId} {state : DemandState}
    (found : problem.demands.find? demand = some state) {preferred : List PathId}
    (eligible : preferred.Perm state.derivation.eligiblePaths) :
    Rearranges problem (consolidatePaths problem demand preferred) demand ∧
      ((problem.demandOf demand).shares.size < 2 ∨ Gathers demand preferred preferred.reverse problem →
        ((consolidatePaths problem demand preferred).demandOf demand).positiveShares ≤
          (problem.demandOf demand).positiveShares) := by
  have listed : ∀ path ∈ preferred, path ∈ state.derivation.eligiblePaths :=
    fun path member => eligible.subset member
  have current : problem.demandOf demand = state := by
    rw [Problem.demandOf, found]
    rfl
  obtain ⟨done, grows⟩ := consolidatePaths_spec accepted safe found listed
  obtain ⟨next, present, -, granted, -⟩ := grows.own state found
  constructor
  · refine ⟨?_, ?_, grows.others⟩
    · rw [current, Problem.demandOf, present, Option.getD_some, granted, Int.add_zero]
    · intro id resource known
      exact ⟨done.consistent.loads id resource known, done.consistent.within id resource known⟩
  · intro either
    unfold consolidatePaths
    by_cases few : (problem.demandOf demand).shares.size < 2
    · rw [if_pos few]
    · rw [if_neg few]
      have gathers := either.resolve_left few
      obtain ⟨last, final, fewer⟩ :=
        consolidateFrom_support accepted preferred.reverse problem state safe found listed gathers
      rw [current, Problem.demandOf, final, Option.getD_some, DemandState.positiveShares_eq,
        DemandState.positiveShares_eq]
      exact fewer

/-! A demand whose two paths became the less preferred ones: their failure domain carries its traffic now.
-/

def rackResource (literal : String) (capacity : Int) : FabricResource :=
  { linkResource with
    id := named literal
    usableCapacity := capacity }

def rackPath (literal resource : String) (cost : Int) (domains : List FailureDomainId) : CandidatePath :=
  { linkPath with
    id := named literal
    authority := ⟨named literal, Gen.first⟩
    resources := [named resource]
    cost := cost
    failureDomains := domains }

def rackFabric : FabricSnapshot :=
  { linkFabric with
    capacity := { linkFabric.capacity with
      resources := [rackResource "link-1" 9, rackResource "link-2" 1, rackResource "link-3" 4,
        rackResource "link-4" 4] }
    objective := { linkFabric.objective with
      terms := [{ term := .minimizeFailureDomainConcentration, weight := 1 },
        { term := .minimizePathCount, weight := 1 }] }
    paths := [rackPath "path-1" "link-1" 1 [named "rack-1"], rackPath "path-2" "link-2" 1 [named "rack-1"],
      rackPath "path-3" "link-3" 2 [], rackPath "path-4" "link-4" 2 []] }

/-- The problem that the solver consolidates. -/
def consolidationProblem (snapshot : FabricSnapshot) : Problem :=
  fillTargets {} (canonicalProcessingOrder (derivation snapshot))
    (constructMinimums snapshot (derivation snapshot) {} 1000).run.problem

theorem consolidationProblem_safe {snapshot : FabricSnapshot} (accepted : Accepted snapshot)
    (cap : 1000 ≤ snapshot.policy.maxUtilizationPermille) :
    (consolidationProblem snapshot).Safe snapshot
      (constructMinimums snapshot (derivation snapshot) {} 1000).ceiling :=
  fillTargets_safe accepted {} (constructMinimums_safe accepted {} (by decide) cap).1

/-- The nine units of one path go to the third, and the one unit of the other follows. -/
def roomyRackFabric : FabricSnapshot :=
  { rackFabric with
    capacity := { rackFabric.capacity with
      resources := [rackResource "link-1" 9, rackResource "link-2" 1, rackResource "link-3" 20,
        rackResource "link-4" 4] } }

theorem roomyRackFabric_accepted : Accepted roomyRackFabric :=
  accepted_of_checks _ (by decide +kernel) (by decide +kernel)

theorem consolidatePaths_fewer_roomyRack :
    let problem := consolidationProblem roomyRackFabric
    let after := consolidatePaths problem linkDemand.id (orderPaths problem linkDemand.id {})
    Rearranges problem after linkDemand.id ∧ (problem.demandOf linkDemand.id).positiveShares = 2 ∧
      (after.demandOf linkDemand.id).positiveShares ≤ (problem.demandOf linkDemand.id).positiveShares := by
  intro problem after
  have found : problem.demands.find? linkDemand.id = some (problem.demandOf linkDemand.id) := by
    decide +kernel
  have preferred : (orderPaths problem linkDemand.id {}).Perm
      (problem.demandOf linkDemand.id).derivation.eligiblePaths := stableSort_perm _ _
  obtain ⟨rearranges, fewer⟩ := consolidatePaths_fewer roomyRackFabric_accepted
    (consolidationProblem_safe roomyRackFabric_accepted (by decide)) found preferred
  exact ⟨rearranges, by decide +kernel, fewer (Or.inr (by decide +kernel))⟩

/-- In the rack fabric nine units leave for two paths with room for three and four: two paths become three.
-/
theorem rackProblem_spreads : Accepted rackFabric ∧
    (consolidationProblem rackFabric).Safe rackFabric
      (constructMinimums rackFabric (derivation rackFabric) {} 1000).ceiling ∧
    (orderPaths (consolidationProblem rackFabric) linkDemand.id {}).Perm
      ((consolidationProblem rackFabric).demandOf linkDemand.id).derivation.eligiblePaths ∧
    ((consolidationProblem rackFabric).demandOf linkDemand.id).positiveShares = 2 ∧
    ((consolidatePaths (consolidationProblem rackFabric) linkDemand.id
      (orderPaths (consolidationProblem rackFabric) linkDemand.id {})).demandOf
        linkDemand.id).positiveShares = 3 := by
  have accepted : Accepted rackFabric := accepted_of_checks _ (by decide +kernel) (by decide +kernel)
  exact ⟨accepted, consolidationProblem_safe accepted (by decide), stableSort_perm _ _, by decide +kernel,
    by decide +kernel⟩

end TrafficFabric
