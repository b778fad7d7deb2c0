import TrafficFabric.MaxFlow

set_option autoImplicit false

/- A completed maximum flow is no more than any cut: a search never pushes more than an edge can
take, so no capacity runs below zero. The nodes it can still reach are then a cut of that very size. -/
namespace TrafficFabric

namespace FlowNetwork

/-- What a search from a node keeps within bounds: the amount, and the rows of lower levels. -/
structure Within (levels : Levels) (node : Nat) (limit : Int) (search after : Search) (pushed : Int) :
    Prop where
  most : pushed ≤ limit
  rows : ∀ other, levelOf levels other < levelOf levels node →
    after.net.edgesOf other = search.net.edgesOf other
  nonneg : after.net.NonNegative

theorem edgesOf_push_ne (net : Adjacency) (node index other : Nat) (edge : Edge) (amount : Int)
    (apart : other ≠ node) (away : other ≠ edge.target) :
    (net.push node index edge amount).edgesOf other = net.edgesOf other := by
  unfold Adjacency.push
  rw [Adjacency.edgesOf_addCapacity, if_neg (Ne.symm away), Adjacency.edgesOf_addCapacity,
    if_neg (Ne.symm apart)]

theorem scanEdges_within {levels : Levels} {node : Nat}
    (descend : Nat → Int → Search → Option (Int × Search))
    (descends : ∀ target limit (search : Search) pushed after, search.net.NonNegative → 0 < limit →
      levelOf levels target = levelOf levels node + 1 → descend target limit search = some (pushed, after) →
      Within levels target limit search after pushed)
    {limit : Int} (positive : 0 < limit) (passes : Nat) {search after : Search} {pushed : Int}
    (nonneg : search.net.NonNegative)
    (done : scanEdges levels descend node limit passes search = some (pushed, after)) :
    Within levels node limit search after pushed := by
  induction passes generalizing search with
  | zero => cases done
  | succ passes ih =>
      unfold scanEdges at done
      cases found : search.net.edgeAt node (search.nextOf node) with
      | none =>
          rw [found] at done
          cases done
          exact ⟨le_of_lt positive, fun _ _ => rfl, nonneg⟩
      | some edge =>
          rw [found] at done
          dsimp only at done
          by_cases passed : edge.capacity ≤ 0 ∨ levelOf levels edge.target ≠ levelOf levels node + 1
          · rw [if_pos passed] at done
            have rest : Within levels node limit (search.count.advance node) after pushed := ih nonneg done
            exact ⟨rest.most, rest.rows, rest.nonneg⟩
          rw [if_neg passed, not_or, not_le, not_not] at *
          obtain ⟨capacity, level⟩ := passed
          cases descended : descend edge.target (min limit edge.capacity) search.count with
          | none =>
              rw [descended] at done
              cases done
          | some result =>
              obtain ⟨moved, middle⟩ := result
              rw [descended] at done
              dsimp only at done
              have below := descends _ _ _ _ _ (show search.count.net.NonNegative from nonneg)
                (by omega : 0 < min limit edge.capacity) level descended
              by_cases some_ : 0 < moved
              · rw [if_pos some_] at done
                cases done
                have row : middle.net.edgesOf node = search.net.edgesOf node := below.rows node (by omega)
                have present : middle.net.edgeAt node (search.nextOf node) = some edge := by
                  unfold Adjacency.edgeAt at found ⊢
                  rw [row]
                  exact found
                have most := below.most
                refine ⟨by omega, ?_, below.nonneg.push present (by omega) (by omega)⟩
                intro other lower
                show (middle.net.push node (search.nextOf node) edge pushed).edgesOf other = _
                rw [edgesOf_push_ne]
                · exact below.rows other (by omega)
                · rintro rfl
                  omega
                · rintro rfl
                  omega
              · rw [if_neg some_] at done
                have rest : Within levels node limit (middle.advance node) after pushed :=
                  ih below.nonneg done
                refine ⟨rest.most, ?_, rest.nonneg⟩
                intro other lower
                exact (rest.rows other lower).trans (below.rows other (by omega))

theorem augment_within {levels : Levels} (sink depth : Nat) :
    ∀ (node : Nat) {limit : Int} {search after : Search}
    {pushed : Int}, search.net.NonNegative → 0 < limit →
    augment levels sink depth node limit search = some (pushed, after) →
    Within levels node limit search after pushed := by
  induction depth with
  | zero => intro node limit search after pushed _ _ done; cases done
  | succ depth ih =>
      intro node limit search after pushed nonneg positive done
      unfold augment at done
      by_cases arrived : node = sink
      · rw [if_pos arrived] at done
        cases done
        exact ⟨le_refl _, fun _ _ => rfl, nonneg⟩
      · rw [if_neg arrived] at done
        exact scanEdges_within (augment levels sink depth)
          (fun target limit search pushed after searched room _ result => ih target searched room result)
          positive _ nonneg done

theorem augmentAll_nonneg {levels : Levels} {source sink maxIterations : Nat} (fuel : Nat)
    {total reached : Int}
    {search after : Search} (nonneg : search.net.NonNegative)
    (done : augmentAll levels source sink maxIterations fuel total search = some (reached, after)) :
    after.net.NonNegative := by
  induction fuel generalizing total search with
  | zero => cases done
  | succ fuel ih =>
      unfold augmentAll at done
      split at done
      · cases done
        exact nonneg
      · cases found : augment levels sink (search.net.length + 2) source kInfinite search with
        | none =>
            rw [found] at done
            cases done
        | some result =>
            obtain ⟨pushed, middle⟩ := result
            rw [found] at done
            dsimp only at done
            have within := augment_within sink _ source nonneg (by decide) found
            split at done
            · cases done
              exact within.nonneg
            · exact ih within.nonneg done

theorem flowPhases_nonneg {source sink maxIterations : Nat} (fuel : Nat) {total reached : Int}
    {net after : Adjacency} {iterations : Nat} (nonneg : net.NonNegative)
    (done : flowPhases source sink maxIterations fuel total net iterations = some (reached, after)) :
    after.NonNegative := by
  induction fuel generalizing total net iterations with
  | zero => cases done
  | succ fuel ih =>
      unfold flowPhases at done
      dsimp only at done
      split at done
      · cases done
        exact nonneg
      · split at done
        · cases done
          exact nonneg
        · cases found : augmentAll (buildLevels net source iterations).1 source sink maxIterations
              (maxIterations + 2) total ⟨net, List.replicate net.length 0,
                (buildLevels net source iterations).2⟩ with
          | none =>
              rw [found] at done
              cases done
          | some result =>
              obtain ⟨middle, searched⟩ := result
              rw [found] at done
              dsimp only at done
              have kept := augmentAll_nonneg _ nonneg found
              split at done
              · cases done
                exact kept
              · exact ih kept done

/-- The nodes that can be reached in a residual network. -/
def reachableSide (net : Adjacency) (source : Nat) : Nat → Bool :=
  fun node => (sourceSide net source).getD node false

theorem reachableSide_eq (net : Adjacency) (source : Nat) :
    reachableSide net source = visitedSide (buildLevels net source 0).1 := by
  funext node
  unfold reachableSide sourceSide visitedSide levelOf
  rw [List.getD_eq_getElem?_getD, List.getElem?_map, List.getD_eq_getElem?_getD]
  cases (buildLevels net source 0).1[node]? with
  | none => rfl
  | some level => rfl

/-- The flow is the least cut, and the nodes that are left reachable are one of that size. -/
structure LeastCut (net residual : Adjacency) (source sink : Nat) (flow : Int) : Prop where
  least : ∀ side : Nat → Bool, side source = true → side sink = false → flow ≤ Adjacency.cut side net
  rooted : reachableSide residual source source = true
  apart : reachableSide residual source sink = false
  filled : Adjacency.cut (reachableSide residual source) net = flow

/-- A completed maximum flow is, clamped to the machine type, the least cut. -/
theorem maxFlow_least {net : Adjacency} {source sink : Nat} (paired : net.Paired) (nonneg : net.NonNegative)
    (inside : source < net.length) (different : source ≠ sink) (maxIterations : Nat) :
    ∃ flow residual, maxFlow net source sink maxIterations = some (flow, residual) ∧
      (flow = -1 ∨ ∃ exact, 0 ≤ exact ∧ flow = min int64Max exact ∧
        LeastCut net residual source sink exact) := by
  obtain ⟨flow, residual, done, outcome⟩ := maxFlow_lowered paired inside different maxIterations
  refine ⟨flow, residual, done, ?_⟩
  rcases outcome with exhausted | ⟨exact, positive, value, lowered, severed⟩
  · exact Or.inl exhausted
  have left : residual.NonNegative := flowPhases_nonneg _ nonneg done
  have shown := reachableSide_eq residual source
  refine Or.inr ⟨exact, positive, value, ?_, ?_, ?_, ?_⟩
  · intro side inSide outSide
    have change := lowered side inSide outSide
    have rest := left.cut side
    omega
  · rw [shown]
    exact severed.rooted
  · rw [shown]
    exact severed.apart
  · rw [shown]
    have change := lowered _ severed.rooted severed.apart
    have rest := left.cut (visitedSide (buildLevels residual source 0).1)
    have closed := severed.closed
    omega

end FlowNetwork

end TrafficFabric
