import TrafficFabric.FlowProgress
import TrafficFabric.Lib.ResidualFlows
import Mathlib.Logic.Relation

set_option autoImplicit false

/- What the solver's flow computes is a maximum flow of the arcs the network was built of, and the nodes it
can still reach are a cut of the same size. -/
namespace TrafficFabric

/-- An edge gives an amount that it can take to its reverse. -/
def Adjacency.PushStep (net after : Adjacency) : Prop :=
  ∃ node index edge amount, net.edgeAt node index = some edge ∧ 0 < amount ∧ amount ≤ edge.capacity ∧
    after = net.push node index edge amount

/-- Whatever is pushed, no capacity runs below zero and every pair keeps its sum. -/
theorem Adjacency.Residual.steps {net residual after : Adjacency} (mutual_ : net.Mutual)
    (same : net.Residual residual) (steps : Relation.ReflTransGen Adjacency.PushStep residual after) :
    net.Residual after := by
  induction steps with
  | refl => exact same
  | tail _ step ih =>
      obtain ⟨node, index, edge, amount, found, positive, most, rfl⟩ := step
      exact ih.push mutual_ found positive.le most

namespace FlowNetwork

open Relation Adjacency

/-! The network changes by pushes only. -/

theorem scanEdges_pushes {levels : Levels} {node : Nat}
    (descend : Nat → Int → Search → Option (Int × Search))
    (descends : ∀ target limit (search : Search) pushed after, search.net.NonNegative → 0 < limit →
      levelOf levels target = levelOf levels node + 1 → descend target limit search = some (pushed, after) →
      Within levels target limit search after pushed ∧ ReflTransGen PushStep search.net after.net)
    {limit : Int} (positive : 0 < limit) (passes : Nat) {search after : Search} {pushed : Int}
    (nonneg : search.net.NonNegative)
    (done : scanEdges levels descend node limit passes search = some (pushed, after)) :
    ReflTransGen PushStep search.net after.net := by
  induction passes generalizing search with
  | zero => cases done
  | succ passes ih =>
      unfold scanEdges at done
      cases found : search.net.edgeAt node (search.nextOf node) with
      | none =>
          rw [found] at done
          cases done
          exact ReflTransGen.refl
      | some edge =>
          rw [found] at done
          dsimp only at done
          by_cases passed : edge.capacity ≤ 0 ∨ levelOf levels edge.target ≠ levelOf levels node + 1
          · rw [if_pos passed] at done
            exact @ih (search.count.advance node) nonneg done
          rw [if_neg passed, not_or, not_le, not_not] at *
          obtain ⟨capacity, level⟩ := passed
          cases descended : descend edge.target (min limit edge.capacity) search.count with
          | none =>
              rw [descended] at done
              cases done
          | some result =>
              obtain ⟨moved, middle⟩ := result
              rw [descended] at done
              dsimp only at done
              obtain ⟨within, below⟩ := descends _ _ _ _ _ (show search.count.net.NonNegative from nonneg)
                (by omega : 0 < min limit edge.capacity) level descended
              by_cases some_ : 0 < moved
              · rw [if_pos some_] at done
                cases done
                have row : middle.net.edgesOf node = search.net.edgesOf node := within.rows node (by omega)
                have present : middle.net.edgeAt node (search.nextOf node) = some edge := by
                  unfold edgeAt at found ⊢
                  rw [row]
                  exact found
                have most := within.most
                exact below.tail ⟨node, search.nextOf node, edge, pushed, present, some_, by omega, rfl⟩
              · rw [if_neg some_] at done
                exact below.trans (@ih (middle.advance node) within.nonneg done)

theorem augment_pushes {levels : Levels} (sink depth : Nat) :
    ∀ (node : Nat) {limit : Int} {search after : Search}
    {pushed : Int}, search.net.NonNegative → 0 < limit →
    augment levels sink depth node limit search = some (pushed, after) →
    ReflTransGen PushStep search.net after.net := by
  induction depth with
  | zero => intro node limit search after pushed _ _ done; cases done
  | succ depth ih =>
      intro node limit search after pushed nonneg positive done
      unfold augment at done
      by_cases arrived : node = sink
      · rw [if_pos arrived] at done
        cases done
        exact ReflTransGen.refl
      · rw [if_neg arrived] at done
        exact scanEdges_pushes (augment levels sink depth)
          (fun target limit search pushed after searched room _ result =>
            ⟨augment_within sink depth target searched room result, ih target searched room result⟩)
          positive _ nonneg done

/-! Whole runs. -/

/-- What a run has done to the network so far, and what it has added to the total for it. -/
structure Run (source sink : Nat) (net after : Adjacency) (total reached : Int) : Prop where
  nonneg : after.NonNegative
  steps : ReflTransGen PushStep net after
  counted : ∃ amount, 0 ≤ amount ∧ Moved source sink net after amount ∧
    ∀ moved, total = min int64Max moved → 0 ≤ moved → reached = -1 ∨ reached = min int64Max (moved + amount)

theorem moved_refl (source sink : Nat) (net : Adjacency) : Moved source sink net net 0 := by
  intro side
  simp

/-- A run that has not changed anything. -/
theorem Run.refl {source sink : Nat} {net : Adjacency} {total reached : Int} (nonneg : net.NonNegative)
    (same : reached = -1 ∨ reached = total) : Run source sink net net total reached := by
  refine ⟨nonneg, ReflTransGen.refl, 0, le_refl 0, moved_refl source sink net, ?_⟩
  intro moved exact _
  rw [Int.add_zero, ← exact]
  exact same

/-- A run that was not given up, and one that follows it. -/
theorem Run.trans {source sink : Nat} {net middle after : Adjacency} {total between reached : Int}
    (early : Run source sink net middle total between) (completed : between ≠ -1)
    (late : Run source sink middle after between reached) : Run source sink net after total reached := by
  obtain ⟨nonneg, steps, first, low, movedFirst, countedFirst⟩ := early
  obtain ⟨nonnegAfter, stepsAfter, second, more, movedSecond, countedSecond⟩ := late
  refine ⟨nonnegAfter, steps.trans stepsAfter, first + second, by omega, ?_, ?_⟩
  · intro side
    have earlier := movedFirst side
    have later := movedSecond side
    split_ifs at earlier later ⊢ <;> omega
  · intro moved exact low_
    have value := (countedFirst moved exact low_).resolve_left completed
    rw [← Int.add_assoc]
    exact countedSecond (moved + first) value (by omega)

theorem augmentAll_run {levels : Levels} {source sink : Nat} (maxIterations fuel : Nat)
    {total reached : Int}
    {search after : Search} (valid : search.Valid) (nonneg : search.net.NonNegative)
    (bounded : ∀ node, levelOf levels node ≤ search.net.length + 1) (rooted : levelOf levels source = 0)
    (started : 0 ≤ total ∧ total ≤ int64Max)
    (done : augmentAll levels source sink maxIterations fuel total search = some (reached, after)) :
    Run source sink search.net after.net total reached ∧ after.Valid ∧
      after.net.length = search.net.length ∧
      reached ≤ int64Max := by
  induction fuel generalizing total search with
  | zero => cases done
  | succ fuel ih =>
      unfold augmentAll at done
      by_cases spent : maxIterations < search.iterations
      · rw [if_pos spent] at done
        cases done
        exact ⟨.refl nonneg (Or.inl rfl), valid, rfl, by decide⟩
      rw [if_neg spent] at done
      obtain ⟨pushed, middle, found, run⟩ := augment_spec sink (search.net.length + 1) bounded
        (search.net.length + 2) source kInfinite search valid (by decide) (by rw [rooted]; omega)
      have within := augment_within sink _ source nonneg (by decide) found
      have steps := augment_pushes sink _ source nonneg (by decide) found
      have extended := run.extends_
      rw [found] at done
      dsimp only at done
      by_cases stuck : pushed ≤ 0
      · rw [if_pos stuck] at done
        cases done
        have zero : pushed = 0 := le_antisymm stuck run.nonneg
        refine ⟨⟨within.nonneg, steps, 0, le_refl 0, ?_, ?_⟩, extended.valid, extended.length, started.2⟩
        · rw [zero] at run
          exact run.cut
        · intro moved exact _
          rw [Int.add_zero]
          exact Or.inr exact
      · rw [if_neg stuck] at done
        have sum : satAdd total pushed = min int64Max (total + pushed) :=
          satAdd_of_nonneg (by omega) started.2
        have next : 0 ≤ satAdd total pushed ∧ satAdd total pushed ≤ int64Max := by
          rw [sum]
          unfold int64Max
          omega
        have first : Run source sink search.net middle.net total (satAdd total pushed) := by
          refine ⟨within.nonneg, steps, pushed, by omega, run.cut, ?_⟩
          intro moved exact low
          right
          rw [sum, exact]
          omega
        obtain ⟨rest, validAfter, length, most⟩ := ih extended.valid within.nonneg
          (by rw [extended.length]; exact bounded) next done
        exact ⟨first.trans (by omega) rest, validAfter, length.trans extended.length, most⟩

theorem flowPhases_run {source sink : Nat} (maxIterations fuel : Nat) {total flow : Int}
    {net residual : Adjacency}
    {iterations : Nat} (paired : net.Paired) (nonneg : net.NonNegative) (inside : source < net.length)
    (started : 0 ≤ total ∧ total ≤ int64Max)
    (done : flowPhases source sink maxIterations fuel total net iterations = some (flow, residual)) :
    Run source sink net residual total flow := by
  induction fuel generalizing total net iterations with
  | zero => cases done
  | succ fuel ih =>
      have inRange : ∀ node, ∀ edge ∈ net.edgesOf node, edge.target < net.length := by
        intro node edge member
        obtain ⟨index, present⟩ := List.mem_iff_getElem?.1 member
        exact paired.target_lt present
      obtain ⟨-, rooted, bounded, -⟩ := buildLevels_spec inRange source iterations inside
      unfold flowPhases at done
      dsimp only at done
      split at done
      · cases done
        exact .refl nonneg (Or.inr rfl)
      · split at done
        · cases done
          exact .refl nonneg (Or.inl rfl)
        · cases found : augmentAll (buildLevels net source iterations).1 source sink maxIterations
              (maxIterations + 2) total ⟨net, List.replicate net.length 0,
                (buildLevels net source iterations).2⟩ with
          | none =>
              rw [found] at done
              cases done
          | some result =>
              obtain ⟨reached, after⟩ := result
              rw [found] at done
              dsimp only at done
              obtain ⟨run, valid, length, most⟩ := augmentAll_run maxIterations _
                ⟨paired, List.length_replicate⟩ nonneg bounded rooted started found
              by_cases given : reached < 0
              · rw [if_pos given] at done
                cases done
                obtain ⟨low, steps, amount, more, moved, -⟩ := run
                exact ⟨low, steps, amount, more, moved, fun _ _ _ => Or.inl rfl⟩
              · rw [if_neg given] at done
                exact run.trans (by omega) (ih valid.paired run.nonneg (by rw [length]; exact inside)
                  ⟨by omega, most⟩ done)

/-- What the arcs that start at a node can carry together. -/
def leaving (node : Nat) (arcs : List (Flows.Arc Nat)) : Int :=
  (arcs.map fun arc => if arc.source = node then arc.capacity else 0).sum

theorem cutCapacity_le_leaving (node : Nat) (arcs : List (Flows.Arc Nat))
    (nonneg : ∀ arc ∈ arcs, 0 ≤ arc.capacity) :
    Flows.cutCapacity (fun other => decide (other = node)) arcs ≤ leaving node arcs := by
  apply List.sum_le_sum
  intro arc member
  have capacity := nonneg arc member
  by_cases starts : arc.source = node
  · rw [if_pos starts]
    split <;> omega
  · simp [starts]

/-- The maximum flow of a network built of arcs: a result other than -1 is the largest flow, and the arcs
that leave the nodes still reachable carry exactly that much. On the way every network is one that pushes
lead to, and from some budget on the result is not -1. -/
theorem maxFlow_maximum {net : Adjacency} {arcs : List (Flows.Arc Nat)} (built : Built net arcs)
    {source sink : Nat} (inside : source < net.length) (different : source ≠ sink)
    (fits : leaving source arcs ≤ int64Max) :
    (∀ maxIterations, ∃ flow residual, maxFlow net source sink maxIterations = some (flow, residual) ∧
      ReflTransGen PushStep net residual ∧
      (flow ≠ -1 → Flows.IsMaximum arcs source sink flow ∧
        flow = Flows.cutCapacity (reachableSide residual source) arcs)) ∧
    (∀ between, ReflTransGen PushStep net between → net.Residual between) ∧
    ∃ budget, ∀ maxIterations, budget ≤ maxIterations → ∃ flow residual,
      maxFlow net source sink maxIterations = some (flow, residual) ∧ flow ≠ -1 := by
  have mutual_ := built.mutual_
  have nonneg := built.nonneg
  have pushes : ∀ between, ReflTransGen PushStep net between → net.Residual between :=
    fun between steps => (Residual.refl nonneg).steps mutual_ steps
  refine ⟨?_, pushes, ?_⟩
  · intro maxIterations
    obtain ⟨flow, residual, done, outcome⟩ :=
      maxFlow_least mutual_.paired nonneg inside different maxIterations
    have run := flowPhases_run maxIterations _ mutual_.paired nonneg inside ⟨le_refl 0, by decide⟩ done
    refine ⟨flow, residual, done, run.steps, ?_⟩
    intro completed
    obtain ⟨least, positive, value, cut⟩ := outcome.resolve_left completed
    obtain ⟨amount, low, moved, counted⟩ := run.counted
    have clamped := (counted 0 (by decide) (le_refl 0)).resolve_left completed
    -- The cut round the source keeps the flow within the machine type.
    have small : sourceCut source net ≤ int64Max := by
      unfold sourceCut
      rw [built.cut_eq]
      exact (cutCapacity_le_leaving source arcs built.capacities).trans fits
    have first : least ≤ sourceCut source net := cut.least _ (by simp) (by simp [Ne.symm different])
    have rest : 0 ≤ sourceCut source residual := run.nonneg.cut _
    have taken : sourceCut source residual = sourceCut source net - amount := by
      have change := moved fun node => decide (node = source)
      simpa [sourceCut, Ne.symm different] using change
    have exact : flow = least ∧ amount = least := by omega
    obtain ⟨shipped, isFlow, outflow⟩ := (pushes residual run.steps).flow built different moved
    have filled : least = Flows.cutCapacity (reachableSide residual source) arcs := by
      rw [← built.cut_eq]
      exact cut.filled.symm
    rw [exact.1, filled]
    exact ⟨isFlow.isMaximum cut.rooted cut.apart (outflow.trans (exact.2.trans filled)), rfl⟩
  · obtain ⟨budget, flow, residual, low, ends⟩ := maxFlow_ends mutual_.paired nonneg inside different
    exact ⟨budget, fun maxIterations enough => ⟨flow, residual, ends maxIterations enough, by omega⟩⟩

/-- Two ways from the first node to the last, and an arc across. -/
def diamondArcs : List (Flows.Arc Nat) :=
  [⟨0, 1, 3⟩, ⟨0, 2, 2⟩, ⟨1, 2, 1⟩, ⟨1, 3, 2⟩, ⟨2, 3, 3⟩]

def diamond : Adjacency :=
  ((((addEdge (List.replicate 4 []) 0 1 3).addEdge 0 2 2).addEdge 1 2 1).addEdge 1 3 2).addEdge 2 3 3

theorem diamond_built : Built diamond diamondArcs := by
  have ways : Built ((addEdge (List.replicate 4 []) 0 1 3).addEdge 0 2 2) [⟨0, 1, 3⟩, ⟨0, 2, 2⟩] :=
    ((Built.nodes 4).edge (by decide) (by decide) (by decide) (by decide)).edge (by decide)
      (by decide) (by decide)
      (by decide)
  have across := ways.edge (by decide : 1 < _) (by decide : 2 < _) (by decide) (by decide : (0 : Int) ≤ 1)
  have upper := across.edge (by decide : 1 < _) (by decide : 3 < _) (by decide) (by decide : (0 : Int) ≤ 2)
  exact upper.edge (by decide : 2 < _) (by decide : 3 < _) (by decide) (by decide : (0 : Int) ≤ 3)

/-- The arc across is needed to fill both ways in. -/
theorem maxFlow_maximum_diamond : ∃ residual, maxFlow diamond 0 3 100 = some (5, residual) ∧
    Flows.IsMaximum diamondArcs 0 3 5 ∧ Flows.cutCapacity (reachableSide residual 0) diamondArcs = 5 := by
  obtain ⟨each, -, -⟩ := @maxFlow_maximum diamond diamondArcs diamond_built 0 3 (by decide) (by decide)
    (by decide)
  obtain ⟨flow, residual, done, -, most⟩ := each 100
  have value : (maxFlow diamond 0 3 100).map Prod.fst = some 5 := by decide +kernel
  rw [done] at value
  obtain rfl : flow = 5 := Option.some.inj value
  obtain ⟨maximum, cut⟩ := most (by decide)
  exact ⟨residual, done, maximum, cut.symm⟩

end FlowNetwork

end TrafficFabric
