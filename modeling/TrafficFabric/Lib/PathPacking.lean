import Mathlib.Data.List.Nodup
import TrafficFabric.Lib.Sums

set_option autoImplicit false

/- Whole-path rates and cuts. Demands put rates on their eligible paths, a path's rate
loads every link it uses. Whatever set of demands, paths and links is taken as a side,
the floors the rates meet fit through the edges that leave it; the edges between demands
and paths and between paths and links may be finite as long as no link can carry more. -/
namespace TrafficFabric

namespace PathPacking

variable {δ π ρ : Type} [DecidableEq ρ]
variable (demands : List δ) (eligible : δ → List π) (uses : π → List ρ)

/-- Total rate over the paths that use the link. -/
def load (rate : δ → π → Int) (link : ρ) : Int :=
  (demands.map fun demand =>
    ((eligible demand).map fun path => if link ∈ uses path then rate demand path else 0).sum).sum

/-- Total rate all demands put on the path. -/
def pathRate [DecidableEq π] (rate : δ → π → Int) (path : π) : Int :=
  (demands.map fun demand => if path ∈ eligible demand then rate demand path else 0).sum

/-- Capacity of the edges leaving a side: floors of the demands outside, unbounded edges
that cross, and the ceilings of the links inside. -/
def cutCapacity (paths : List π) (links : List ρ) (floor : δ → Int) (ceiling : ρ → Int)
    (infinite : Int) (demandSide : δ → Bool) (pathSide : π → Bool) (linkSide : ρ → Bool) : Int :=
  (demands.map fun demand => (if demandSide demand then 0 else floor demand) +
    ((eligible demand).map fun path =>
      if demandSide demand then if pathSide path then 0 else infinite else 0).sum).sum +
  (paths.map fun path => ((uses path).map fun link =>
    if pathSide path then if linkSide link then 0 else infinite else 0).sum).sum +
  (links.map fun link => if linkSide link then ceiling link else 0).sum

theorem sum_map_subset [DecidableEq π] (measure : π → Int) (part whole : List π) (partNodup : part.Nodup)
    (wholeNodup : whole.Nodup) (inside : ∀ item ∈ part, item ∈ whole) :
    (part.map measure).sum = (whole.map fun item => if item ∈ part then measure item else 0).sum := by
  have same : part.Perm (whole.filter fun item => decide (item ∈ part)) := by
    apply (List.perm_ext_iff_of_nodup partNodup (wholeNodup.filter _)).mpr
    intro item
    simp only [List.mem_filter, decide_eq_true_eq]
    exact ⟨fun member => ⟨inside item member, member⟩, fun both => both.2⟩
  rw [(same.map measure).sum_eq, sum_map_filter]
  simp only [decide_eq_true_eq]

section Rates

variable {demands eligible uses} {rate : δ → π → Int}
variable (nonneg : ∀ demand ∈ demands, ∀ path ∈ eligible demand, 0 ≤ rate demand path)

include nonneg

theorem load_part_nonneg (link : ρ) {demand : δ} (listed : demand ∈ demands) :
    0 ≤ ((eligible demand).map fun path =>
      if link ∈ uses path then rate demand path else 0).sum := by
  apply sum_map_nonneg
  intro path member
  have amount := nonneg demand listed path member
  split <;> omega

/-- A path's rate is part of the load of every link it uses. -/
theorem pathRate_le_load [DecidableEq π] {path : π} {link : ρ} (used : link ∈ uses path) :
    pathRate demands eligible rate path ≤ load demands eligible uses rate link := by
  apply List.sum_le_sum
  intro demand listed
  by_cases member : path ∈ eligible demand
  · have part := le_sum_map (fun path => if link ∈ uses path then rate demand path else 0)
      (eligible demand) (by
        intro other inside
        have amount := nonneg demand listed other inside
        split <;> omega) path member
    rw [if_pos used] at part
    rw [if_pos member]
    exact part
  · rw [if_neg member]
    exact load_part_nonneg nonneg link listed

theorem rate_le_pathRate [DecidableEq π] {demand : δ} {path : π} (listed : demand ∈ demands)
    (member : path ∈ eligible demand) :
    rate demand path ≤ pathRate demands eligible rate path := by
  have part := le_sum_map (fun demand => if path ∈ eligible demand then rate demand path else 0)
    demands (by
      intro other inside
      split
      · rename_i eligiblePath
        exact nonneg other inside path eligiblePath
      · exact le_refl _) demand listed
  rw [if_pos member] at part
  exact part

/-- The rates on paths that stay on the side and use only links of the side fit through
the ceilings of those links. -/
theorem inner_rates_le {links : List ρ} {ceiling : ρ → Int} {linkSide : ρ → Bool}
    (confined : δ → π → Bool)
    (carried : ∀ link ∈ links, load demands eligible uses rate link ≤ ceiling link)
    (anchored : ∀ demand ∈ demands, ∀ path ∈ eligible demand, confined demand path = true →
      ∃ link ∈ links, linkSide link = true ∧ link ∈ uses path) :
    (demands.map fun demand => ((eligible demand).map fun path =>
      if confined demand path then rate demand path else 0).sum).sum ≤
    (links.map fun link => if linkSide link then ceiling link else 0).sum := by
  have spread : (demands.map fun demand => ((eligible demand).map fun path =>
        if confined demand path then rate demand path else 0).sum).sum ≤
      (demands.map fun demand => ((eligible demand).map fun path => (links.map fun link =>
        if linkSide link then if link ∈ uses path then rate demand path else 0 else 0).sum).sum).sum := by
    apply List.sum_le_sum
    intro demand listed
    apply List.sum_le_sum
    intro path member
    have amount := nonneg demand listed path member
    have parts : ∀ link ∈ links, 0 ≤ if linkSide link then
        if link ∈ uses path then rate demand path else 0 else 0 := by
      intro link _
      split
      · split <;> omega
      · omega
    split
    · rename_i inner
      obtain ⟨link, present, onSide, used⟩ := anchored demand listed path member inner
      have part := le_sum_map _ links parts link present
      simp only [onSide, used, ↓reduceIte] at part
      exact part
    · exact sum_map_nonneg _ links parts
  have exchanged : (demands.map fun demand => ((eligible demand).map fun path =>
        (links.map fun link =>
          if linkSide link then if link ∈ uses path then rate demand path else 0 else 0).sum).sum).sum =
      (links.map fun link => if linkSide link then load demands eligible uses rate link else 0).sum := by
    have inner : ∀ demand, ((eligible demand).map fun path => (links.map fun link =>
        if linkSide link then if link ∈ uses path then rate demand path else 0 else 0).sum).sum =
        (links.map fun link => ((eligible demand).map fun path =>
          if linkSide link then if link ∈ uses path then rate demand path else 0 else 0).sum).sum := by
      intro demand
      exact sum_map_comm _ (eligible demand) links
    simp only [inner]
    rw [sum_map_comm]
    congr 1
    apply List.map_congr_left
    intro link _
    by_cases onSide : linkSide link = true
    · simp only [onSide, ↓reduceIte, load]
    · simp [onSide]
  have bounded : (links.map fun link =>
        if linkSide link then load demands eligible uses rate link else 0).sum ≤
      (links.map fun link => if linkSide link then ceiling link else 0).sum := by
    apply List.sum_le_sum
    intro link present
    split
    · exact carried link present
    · exact le_refl _
  omega

/-- The rates on paths of the side that use a link outside fit through the unbounded
edges that leave those paths. -/
theorem leaking_rates_le [DecidableEq π] {paths : List π} {links : List ρ}
    {ceiling : ρ → Int} {infinite : Int}
    {pathSide : π → Bool} {linkSide : ρ → Bool} (eligibleNodup : ∀ demand ∈ demands,
      (eligible demand).Nodup) (pathsNodup : paths.Nodup)
    (known : ∀ demand ∈ demands, ∀ path ∈ eligible demand, path ∈ paths)
    (usesKnown : ∀ path ∈ paths, ∀ link ∈ uses path, link ∈ links)
    (carried : ∀ link ∈ links, load demands eligible uses rate link ≤ ceiling link)
    (bounded : ∀ link ∈ links, ceiling link ≤ infinite) (infiniteNonneg : 0 ≤ infinite) :
    (demands.map fun demand => ((eligible demand).map fun path =>
      if pathSide path && (uses path).any (fun link => !linkSide link) then rate demand path
      else 0).sum).sum ≤
    (paths.map fun path => ((uses path).map fun link =>
      if pathSide path then if linkSide link then 0 else infinite else 0).sum).sum := by
  have regrouped : (demands.map fun demand => ((eligible demand).map fun path =>
        if pathSide path && (uses path).any (fun link => !linkSide link) then rate demand path
        else 0).sum).sum =
      (paths.map fun path => if pathSide path && (uses path).any (fun link => !linkSide link) then
        pathRate demands eligible rate path else 0).sum := by
    have inner : ∀ demand ∈ demands, ((eligible demand).map fun path =>
          if pathSide path && (uses path).any (fun link => !linkSide link) then rate demand path
          else 0).sum =
        (paths.map fun path => if path ∈ eligible demand then
          if pathSide path && (uses path).any (fun link => !linkSide link) then rate demand path
          else 0 else 0).sum := by
      intro demand listed
      exact sum_map_subset _ _ _ (eligibleNodup demand listed) pathsNodup (known demand listed)
    rw [List.map_congr_left inner, sum_map_comm]
    congr 1
    apply List.map_congr_left
    intro path _
    by_cases leaking : (pathSide path && (uses path).any (fun link => !linkSide link)) = true
    · simp only [leaking, ↓reduceIte, pathRate]
    · simp [leaking]
  rw [regrouped]
  apply List.sum_le_sum
  intro path present
  have parts : ∀ link ∈ uses path, 0 ≤ if pathSide path then
      if linkSide link then 0 else infinite else 0 := by
    intro link _
    split
    · split <;> omega
    · omega
  split
  · rename_i leaking
    simp only [Bool.and_eq_true, List.any_eq_true, Bool.not_eq_true'] at leaking
    obtain ⟨onSide, link, used, outside⟩ := leaking
    have rates : pathRate demands eligible rate path ≤ load demands eligible uses rate link :=
      pathRate_le_load nonneg used
    have listed := usesKnown path present link used
    have within := carried link listed
    have small := bounded link listed
    have value : (if pathSide path then if linkSide link then 0 else infinite else 0) = infinite := by
      simp [onSide, outside]
    have part := le_sum_map _ (uses path) parts link used
    rw [value] at part
    omega
  · exact sum_map_nonneg _ (uses path) parts

/-- Weak duality: floors met by whole-path rates are at most the capacity of any cut. -/
theorem floors_le_cutCapacity [DecidableEq π] {paths : List π} {links : List ρ} {floor : δ → Int}
    {ceiling : ρ → Int} {infinite : Int} (demandSide : δ → Bool) (pathSide : π → Bool)
    (linkSide : ρ → Bool) (eligibleNodup : ∀ demand ∈ demands, (eligible demand).Nodup)
    (pathsNodup : paths.Nodup) (known : ∀ demand ∈ demands, ∀ path ∈ eligible demand, path ∈ paths)
    (usesSome : ∀ path ∈ paths, uses path ≠ [])
    (usesKnown : ∀ path ∈ paths, ∀ link ∈ uses path, link ∈ links)
    (met : ∀ demand ∈ demands, floor demand ≤ ((eligible demand).map (rate demand)).sum)
    (carried : ∀ link ∈ links, load demands eligible uses rate link ≤ ceiling link)
    (bounded : ∀ link ∈ links, ceiling link ≤ infinite) (infiniteNonneg : 0 ≤ infinite) :
    (demands.map floor).sum ≤ cutCapacity demands eligible uses paths links floor ceiling infinite
      demandSide pathSide linkSide := by
  -- A rate leaves the side at its path, at one of its links, or below its links.
  let outer : δ → π → Int := fun demand path =>
    if demandSide demand then if pathSide path then 0 else infinite else 0
  let leaking : δ → π → Int := fun demand path =>
    if pathSide path && (uses path).any (fun link => !linkSide link) then rate demand path else 0
  let confined : δ → π → Bool := fun _ path =>
    pathSide path && !(uses path).any (fun link => !linkSide link)
  have each : ∀ demand ∈ demands, floor demand ≤
      ((if demandSide demand then 0 else floor demand) + ((eligible demand).map (outer demand)).sum) +
      (((eligible demand).map (leaking demand)).sum +
        ((eligible demand).map fun path => if confined demand path then rate demand path else 0).sum) := by
    intro demand listed
    have leakingNonneg : 0 ≤ ((eligible demand).map (leaking demand)).sum := by
      apply sum_map_nonneg
      intro path member
      have amount := nonneg demand listed path member
      simp only [leaking]
      split <;> omega
    have confinedNonneg : 0 ≤ ((eligible demand).map fun path =>
        if confined demand path then rate demand path else 0).sum := by
      apply sum_map_nonneg
      intro path member
      have amount := nonneg demand listed path member
      split <;> omega
    have outerNonneg : 0 ≤ ((eligible demand).map (outer demand)).sum := by
      apply sum_map_nonneg
      intro path _
      simp only [outer]
      split
      · split <;> omega
      · omega
    by_cases onSide : demandSide demand = true
    · have split_ : ((eligible demand).map (rate demand)).sum ≤
          ((eligible demand).map fun path => outer demand path + (leaking demand path +
            if confined demand path then rate demand path else 0)).sum := by
        apply List.sum_le_sum
        intro path member
        have amount := nonneg demand listed path member
        have total : rate demand path ≤ pathRate demands eligible rate path :=
          rate_le_pathRate nonneg listed member
        by_cases inside : pathSide path = true
        · by_cases leaks : (uses path).any (fun link => !linkSide link) = true
          · simp only [outer, leaking, confined, onSide, inside, leaks, ↓reduceIte, Bool.and_self]
            split <;> omega
          · simp only [outer, leaking, confined, onSide, inside, leaks, ↓reduceIte, Bool.true_and,
              Bool.not_false, Bool.false_eq_true]
            omega
        · -- The path is outside: no link carries more than the edge into the path.
          obtain ⟨link, used⟩ :=
            List.exists_mem_of_ne_nil _ (usesSome path (known demand listed path member))
          have rates : pathRate demands eligible rate path ≤ load demands eligible uses rate link :=
            pathRate_le_load nonneg used
          have present := usesKnown path (known demand listed path member) link used
          have within := carried link present
          have small := bounded link present
          simp only [outer, leaking, confined, onSide, inside, ↓reduceIte, Bool.false_and,
            Bool.false_eq_true]
          omega
      have floorMet := met demand listed
      rw [List.sum_map_add, List.sum_map_add] at split_
      rw [if_pos onSide]
      omega
    · rw [if_neg onSide]
      omega
  have summed := List.sum_le_sum each
  have leaked : (demands.map fun demand => ((eligible demand).map (leaking demand)).sum).sum ≤
      (paths.map fun path => ((uses path).map fun link =>
        if pathSide path then if linkSide link then 0 else infinite else 0).sum).sum :=
    leaking_rates_le nonneg eligibleNodup pathsNodup known usesKnown carried bounded infiniteNonneg
  have kept : (demands.map fun demand => ((eligible demand).map fun path =>
        if confined demand path then rate demand path else 0).sum).sum ≤
      (links.map fun link => if linkSide link then ceiling link else 0).sum := by
    apply inner_rates_le nonneg confined carried
    intro demand listed path member inner
    simp only [confined, Bool.and_eq_true, Bool.not_eq_true', List.any_eq_false] at inner
    obtain ⟨link, used⟩ := List.exists_mem_of_ne_nil _ (usesSome path (known demand listed path member))
    have onSide := inner.2 link used
    exact ⟨link, usesKnown path (known demand listed path member) link used, by simpa using onSide,
      used⟩
  unfold cutCapacity
  simp only [List.sum_map_add] at summed ⊢
  simp only [outer] at summed
  omega

end Rates

/-! Least cuts. -/

section Least

variable {demands eligible uses}
variable {paths : List π} {links : List ρ} {floor : δ → Int} {ceiling : ρ → Int} {infinite : Int}
variable {demandSide : δ → Bool} {pathSide : π → Bool} {linkSide : ρ → Bool}

/-- No side has less capacity leaving it. -/
def Least (demands : List δ) (eligible : δ → List π) (uses : π → List ρ) (paths : List π) (links : List ρ)
    (floor : δ → Int) (ceiling : ρ → Int) (infinite : Int) (demandSide : δ → Bool) (pathSide : π → Bool)
    (linkSide : ρ → Bool) : Prop :=
  ∀ (otherDemands : δ → Bool) (otherPaths : π → Bool) (otherLinks : ρ → Bool),
    cutCapacity demands eligible uses paths links floor ceiling infinite demandSide pathSide linkSide ≤
      cutCapacity demands eligible uses paths links floor ceiling infinite otherDemands
        otherPaths otherLinks

omit [DecidableEq ρ] in
theorem unboundedFrom_nonneg (infiniteNonneg : 0 ≤ infinite) (eligible : δ → List π) (demandSide : δ → Bool)
    (pathSide : π → Bool) (demand : δ) :
    0 ≤ ((eligible demand).map fun path =>
      if demandSide demand then if pathSide path then 0 else infinite else 0).sum := by
  apply sum_map_nonneg
  intro path _
  split
  · split <;> omega
  · omega

omit [DecidableEq ρ] in
theorem unboundedInto_nonneg (infiniteNonneg : 0 ≤ infinite) (uses : π → List ρ) (paths : List π)
    (pathSide : π → Bool) (linkSide : ρ → Bool) :
    0 ≤ (paths.map fun path => ((uses path).map fun link =>
      if pathSide path then if linkSide link then 0 else infinite else 0).sum).sum := by
  apply sum_map_nonneg
  intro path _
  apply sum_map_nonneg
  intro link _
  split
  · split <;> omega
  · omega

omit [DecidableEq ρ] in
/-- Only the sides of what is listed matter. -/
theorem cutCapacity_congr {demandSide otherDemands : δ → Bool} {pathSide otherPaths : π → Bool}
    {linkSide otherLinks : ρ → Bool} (known : ∀ demand ∈ demands, ∀ path ∈ eligible demand, path ∈ paths)
    (usesKnown : ∀ path ∈ paths, ∀ link ∈ uses path, link ∈ links)
    (sameDemands : ∀ demand ∈ demands, demandSide demand = otherDemands demand)
    (samePaths : ∀ path ∈ paths, pathSide path = otherPaths path)
    (sameLinks : ∀ link ∈ links, linkSide link = otherLinks link) :
    cutCapacity demands eligible uses paths links floor ceiling infinite demandSide pathSide linkSide =
      cutCapacity demands eligible uses paths links floor ceiling infinite otherDemands
        otherPaths otherLinks := by
  unfold cutCapacity
  congr 1
  · congr 1
    · congr 1
      apply List.map_congr_left
      intro demand listed
      rw [sameDemands demand listed]
      congr 2
      apply List.map_congr_left
      intro path member
      rw [samePaths path (known demand listed path member)]
    · congr 1
      apply List.map_congr_left
      intro path present
      congr 1
      apply List.map_congr_left
      intro link used
      rw [samePaths path present, sameLinks link (usesKnown path present link used)]
  · congr 1
    apply List.map_congr_left
    intro link listed
    rw [sameLinks link listed]

/-- Links that join a side add at most their ceilings. -/
theorem joined_ceilings_le (linkSide : ρ → Bool) (part : List ρ) (partNodup : part.Nodup)
    (linksNodup : links.Nodup)
    (inside : ∀ link ∈ part, link ∈ links) (nonneg : ∀ link ∈ links, 0 ≤ ceiling link) :
    (links.map fun link => if linkSide link || decide (link ∈ part) then ceiling link else 0).sum ≤
      (links.map fun link => if linkSide link then ceiling link else 0).sum + (part.map ceiling).sum := by
  rw [sum_map_subset ceiling part links partNodup linksNodup inside, ← List.sum_map_add]
  apply List.sum_le_sum
  intro link member
  have ceilingNonneg := nonneg link member
  by_cases onSide : linkSide link = true
  · simp only [onSide, Bool.true_or, ↓reduceIte]
    split <;> omega
  · simp [onSide]

/-- No unbounded edge from a path leaves a least cut: the link would join at its ceiling. -/
theorem Least.link_joins (least : Least demands eligible uses paths links floor ceiling infinite demandSide
      pathSide linkSide) (linksNodup : links.Nodup) (nonneg : ∀ link ∈ links, 0 ≤ ceiling link)
    (infiniteNonneg : 0 ≤ infinite) {path : π} {link : ρ} (present : path ∈ paths) (used : link ∈ uses path)
    (listed : link ∈ links) (small : ceiling link < infinite) (onSide : pathSide path = true) :
    linkSide link = true := by
  by_contra outside
  have compared := least demandSide pathSide fun other => linkSide other || decide (other ∈ [link])
  have joined := joined_ceilings_le linkSide [link] (List.nodup_singleton link) linksNodup
    (by simpa using listed) nonneg
  have edge : ∀ other next, (if pathSide other then
        if linkSide next || decide (next ∈ [link]) then 0 else infinite else 0) ≤
      (if pathSide other then if linkSide next then 0 else infinite else 0) := by
    intro other next
    split
    · by_cases inner : linkSide next = true
      · simp [inner]
      · simp only [inner, Bool.false_or, Bool.false_eq_true, ↓reduceIte]
        split <;> omega
    · exact le_refl 0
  have leaving : (paths.map fun other => ((uses other).map fun next => if pathSide other then
        if linkSide next || decide (next ∈ [link]) then 0 else infinite else 0).sum).sum + infinite ≤
      (paths.map fun other => ((uses other).map fun next =>
        if pathSide other then if linkSide next then 0 else infinite else 0).sum).sum := by
    apply sum_map_add_le _ _ paths _ present
    · apply sum_map_add_le _ _ (uses path) (fun next _ => edge path next) used
      simp [onSide, outside]
    · intro other _
      exact List.sum_le_sum fun next _ => edge other next
  unfold cutCapacity at compared
  dsimp only at compared
  rw [List.map_singleton, List.sum_singleton] at joined
  omega

/-- No unbounded edge from a demand leaves a least cut: the path would join with all its links. -/
theorem Least.path_joins [DecidableEq π]
    (least : Least demands eligible uses paths links floor ceiling infinite
      demandSide pathSide linkSide) (linksNodup : links.Nodup) (nonneg : ∀ link ∈ links, 0 ≤ ceiling link)
    (infiniteNonneg : 0 ≤ infinite) {demand : δ} {path : π} (listed : demand ∈ demands)
    (member : path ∈ eligible demand) (usesNodup : (uses path).Nodup)
    (usesKnown : ∀ link ∈ uses path, link ∈ links) (small : ((uses path).map ceiling).sum < infinite)
    (onSide : demandSide demand = true) : pathSide path = true := by
  by_contra outside
  have compared := least demandSide (fun other => pathSide other || decide (other = path))
    fun link => linkSide link || decide (link ∈ uses path)
  have joined := joined_ceilings_le linkSide (uses path) usesNodup linksNodup usesKnown nonneg
  have edge : ∀ other next, (if demandSide other then
        if pathSide next || decide (next = path) then 0 else infinite else 0) ≤
      (if demandSide other then if pathSide next then 0 else infinite else 0) := by
    intro other next
    split
    · by_cases inner : pathSide next = true
      · simp [inner]
      · simp only [inner, Bool.false_or, Bool.false_eq_true, ↓reduceIte]
        split <;> omega
    · exact le_refl 0
  have leaving : (demands.map fun other => (if demandSide other then 0 else floor other) +
        ((eligible other).map fun next => if demandSide other then
          if pathSide next || decide (next = path) then 0 else infinite else 0).sum).sum + infinite ≤
      (demands.map fun other => (if demandSide other then 0 else floor other) +
        ((eligible other).map fun next =>
          if demandSide other then if pathSide next then 0 else infinite else 0).sum).sum := by
    apply sum_map_add_le _ _ demands _ listed
    · have gap : ((eligible demand).map fun next => if demandSide demand then
            if pathSide next || decide (next = path) then 0 else infinite else 0).sum + infinite ≤
          ((eligible demand).map fun next =>
            if demandSide demand then if pathSide next then 0 else infinite else 0).sum := by
        apply sum_map_add_le _ _ (eligible demand) (fun next _ => edge demand next) member
        simp [onSide, outside]
      omega
    · intro other _
      have parts := List.sum_le_sum (l := eligible other) fun next _ => edge other next
      omega
  have inner : (paths.map fun other => ((uses other).map fun link =>
        if pathSide other || decide (other = path) then
          if linkSide link || decide (link ∈ uses path) then 0 else infinite else 0).sum).sum ≤
      (paths.map fun other => ((uses other).map fun link =>
        if pathSide other then if linkSide link then 0 else infinite else 0).sum).sum := by
    apply List.sum_le_sum
    intro other _
    apply List.sum_le_sum
    intro link used
    by_cases same : other = path
    · subst same
      simp only [decide_true, Bool.or_true, used, ↓reduceIte]
      split
      · split <;> omega
      · omega
    · simp only [same, decide_false, Bool.or_false]
      split
      · by_cases within : linkSide link = true
        · simp [within]
        · simp only [within, Bool.false_or, Bool.false_eq_true, ↓reduceIte]
          split <;> omega
      · exact le_refl 0
  unfold cutCapacity at compared
  dsimp only at compared
  omega

omit [DecidableEq ρ] in
/-- The floors of demands beyond a least cut fit in the ceilings of the links beyond it. -/
theorem Least.outside_fits
    (least : Least demands eligible uses paths links floor ceiling infinite demandSide
      pathSide linkSide) (infiniteNonneg : 0 ≤ infinite) (chosen : δ → Bool) :
    (demands.map fun demand => if chosen demand && !demandSide demand then floor demand else 0).sum ≤
      (links.map fun link => if linkSide link then 0 else ceiling link).sum := by
  have compared := least (fun demand => demandSide demand || chosen demand) (fun _ => true) fun _ => true
  have left := unboundedFrom_nonneg infiniteNonneg eligible demandSide pathSide
  have middle := unboundedInto_nonneg infiniteNonneg uses paths pathSide linkSide
  have floors : (demands.map fun demand => if chosen demand && !demandSide demand then
    floor demand else 0).sum +
        (demands.map fun demand => if demandSide demand || chosen demand then 0 else floor demand).sum ≤
      (demands.map fun demand => (if demandSide demand then 0 else floor demand) +
        ((eligible demand).map fun path =>
          if demandSide demand then if pathSide path then 0 else infinite else 0).sum).sum := by
    rw [← List.sum_map_add]
    apply List.sum_le_sum
    intro demand _
    have rest := left demand
    cases onSide : demandSide demand
    · cases chosen demand
      · simp
      · simp
    · simpa [onSide] using rest
  have ceilings : (links.map fun link => if linkSide link then ceiling link else 0).sum +
        (links.map fun link => if linkSide link then 0 else ceiling link).sum =
      (links.map ceiling).sum := by
    rw [← List.sum_map_add]
    congr 1
    apply List.map_congr_left
    intro link _
    cases linkSide link <;> simp
  have joined : cutCapacity demands eligible uses paths links floor ceiling infinite
        (fun demand => demandSide demand || chosen demand) (fun _ => true) (fun _ => true) =
      (demands.map fun demand => if demandSide demand || chosen demand then 0 else floor demand).sum +
        (links.map ceiling).sum := by
    simp [cutCapacity]
  rw [joined] at compared
  unfold cutCapacity at compared
  omega

omit [DecidableEq ρ] in
/-- When a cut falls short of the floors, the demands on its side need more than its links give. -/
theorem inside_short (infiniteNonneg : 0 ≤ infinite)
    (short : cutCapacity demands eligible uses paths links floor ceiling infinite demandSide
      pathSide linkSide <
      (demands.map floor).sum) :
    (links.map fun link => if linkSide link then ceiling link else 0).sum <
      (demands.map fun demand => if demandSide demand then floor demand else 0).sum := by
  have left := unboundedFrom_nonneg infiniteNonneg eligible demandSide pathSide
  have middle := unboundedInto_nonneg infiniteNonneg uses paths pathSide linkSide
  have floors : (demands.map floor).sum ≤
      (demands.map fun demand => if demandSide demand then floor demand else 0).sum +
        (demands.map fun demand => (if demandSide demand then 0 else floor demand) +
          ((eligible demand).map fun path =>
            if demandSide demand then if pathSide path then 0 else infinite else 0).sum).sum := by
    rw [← List.sum_map_add]
    apply List.sum_le_sum
    intro demand _
    have rest := left demand
    cases onSide : demandSide demand
    · simp
    · simpa [onSide] using rest
  unfold cutCapacity at short
  omega

end Least

end PathPacking

end TrafficFabric
