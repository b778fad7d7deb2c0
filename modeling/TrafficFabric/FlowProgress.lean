import TrafficFabric.FlowDuality

set_option autoImplicit false

/- Why the phases of the maximum flow come to an end: where the levels reach the sink, the first augmenting
search of the phase gets there, so every phase takes something from each cut. -/
namespace TrafficFabric

namespace FlowNetwork

/-! The levels. -/

/-- Every visited node but the source was found along an edge with capacity, from one level below. -/
def Parented (net : Adjacency) (source : Nat) (levels : Levels) : Prop :=
  ∀ node, 0 ≤ levelOf levels node → node = source ∨ ∃ before, 0 ≤ levelOf levels before ∧
    ∃ edge ∈ net.edgesOf before, 0 < edge.capacity ∧ edge.target = node ∧
      levelOf levels node = levelOf levels before + 1

theorem visitEdges_parents (depth : Int) (nonneg : 0 ≤ depth) (edges : List Edge) (levels : Levels)
    (queue : List Nat) (inside : ∀ edge ∈ edges, edge.target < levels.length) (node : Nat)
    (visited : 0 ≤ levelOf (visitEdges depth edges levels queue).1 node) : 0 ≤ levelOf levels node ∨
      ∃ edge ∈ edges, 0 < edge.capacity ∧ edge.target = node ∧
        levelOf (visitEdges depth edges levels queue).1 node = depth + 1 := by
  induction edges generalizing levels queue with
  | nil => exact Or.inl visited
  | cons edge rest ih =>
      obtain ⟨first, later⟩ := List.forall_mem_cons.1 inside
      unfold visitEdges at visited ⊢
      by_cases discovered : 0 < edge.capacity ∧ levelOf levels edge.target < 0
      · rw [if_pos discovered] at visited ⊢
        have lookup := levelOf_set first (depth + 1)
        have rows : ∀ other ∈ rest, other.target < (levels.set edge.target (depth + 1)).length := by
          simpa using later
        have run := visitEdges_spec depth nonneg rest (levels.set edge.target (depth + 1))
          (queue ++ [edge.target]) rows
        by_cases here : node = edge.target
        · have mark : levelOf (levels.set edge.target (depth + 1)) node = depth + 1 := by
            rw [lookup, if_pos here]
          refine Or.inr ⟨edge, List.mem_cons_self, discovered.1, here.symm, ?_⟩
          rw [run.kept node (by omega), mark]
        · rcases ih _ _ rows visited with old | ⟨other, member, found⟩
          · rw [lookup, if_neg here] at old
            exact Or.inl old
          · exact Or.inr ⟨other, List.mem_cons_of_mem _ member, found⟩
      · rw [if_neg discovered] at visited ⊢
        rcases ih levels queue later visited with old | ⟨other, member, found⟩
        · exact Or.inl old
        · exact Or.inr ⟨other, List.mem_cons_of_mem _ member, found⟩

section Levels

variable {net : Adjacency} (inRange : ∀ node, ∀ edge ∈ net.edgesOf node, edge.target < net.length)

include inRange

theorem searchLevels_parents (source fuel : Nat) (levels : Levels) (queue : List Nat) (iterations : Nat)
    (length : levels.length = net.length) (queued : ∀ node ∈ queue, 0 ≤ levelOf levels node)
    (parents : Parented net source levels) :
    Parented net source (searchLevels net fuel levels queue iterations).1 := by
  induction fuel generalizing levels queue iterations with
  | zero => exact parents
  | succ fuel ih =>
      cases queue with
      | nil => exact parents
      | cons node rest =>
          have depth : 0 ≤ levelOf levels node := queued node List.mem_cons_self
          have targets : ∀ edge ∈ net.edgesOf node, edge.target < levels.length := by
            rw [length]
            exact inRange node
          have step := visitEdges_spec (levelOf levels node) depth (net.edgesOf node) levels rest targets
          refine ih _ _ _ (step.length.trans length) ?_ ?_
          · intro other member
            rcases step.marked other member with old | visited
            · have before := queued other (List.mem_cons_of_mem _ old)
              rw [step.kept other before]
              exact before
            · exact visited
          · intro other visited
            rcases visitEdges_parents _ depth _ levels rest targets other visited with old | ⟨edge, found⟩
            · rcases parents other old with root | ⟨before, level, edge, member, open_, target, higher⟩
              · exact Or.inl root
              · refine Or.inr ⟨before, ?_, edge, member, open_, target, ?_⟩
                · rw [step.kept before level]
                  exact level
                · rw [step.kept before level, step.kept other old, higher]
            · obtain ⟨member, open_, target, higher⟩ := found
              refine Or.inr ⟨node, ?_, edge, member, open_, target, ?_⟩
              · rw [step.kept node depth]
                exact depth
              · rw [higher, step.kept node depth]

theorem buildLevels_parents (source iterations : Nat) (inside : source < net.length) :
    Parented net source (buildLevels net source iterations).1 := by
  have sourceInside : source < (List.replicate net.length (-1 : Int)).length := by simpa using inside
  have start := levelOf_set sourceInside 0
  have blank (node : Nat) : levelOf (List.replicate net.length (-1 : Int)) node = -1 := by
    unfold levelOf
    rw [List.getD_eq_getElem?_getD, List.getElem?_replicate]
    split <;> rfl
  apply searchLevels_parents inRange
  · simp
  · intro node member
    rw [List.mem_singleton] at member
    rw [start, if_pos member]
  · intro node visited
    rw [start] at visited
    split at visited
    · rename_i root
      exact Or.inl root
    · rw [blank] at visited
      omega

end Levels

/-! Searches that find nothing. -/

/-- Behind the pointers there are only edges that are full, or leave the levels, or lead to a node other
than the sink whose own pointer is at the end. -/
def DeadEnds (levels : Levels) (sink : Nat) (search : Search) : Prop :=
  ∀ node index edge, index < search.nextOf node → search.net.edgeAt node index = some edge →
    0 < edge.capacity →
    levelOf levels edge.target = levelOf levels node + 1 →
      edge.target ≠ sink ∧ (search.net.edgesOf edge.target).length ≤ search.nextOf edge.target

/-- A search from a node that found nothing. -/
structure Exhausted (levels : Levels) (sink node : Nat) (search after : Search) : Prop where
  apart : node ≠ sink
  same : after.net = search.net
  pointers : after.next.length = after.net.length
  ends : DeadEnds levels sink after
  finished : (after.net.edgesOf node).length ≤ after.nextOf node
  grown : ∀ other, search.nextOf other ≤ after.nextOf other
  lower : ∀ other, levelOf levels other < levelOf levels node → after.nextOf other = search.nextOf other

/-- A pointer may pass an edge that leads nowhere. -/
theorem DeadEnds.advance {levels : Levels} {sink : Nat} {search : Search}
    (ends : DeadEnds levels sink search)
    {node : Nat} (inside : node < search.next.length)
    (passed : ∀ edge, search.net.edgeAt node (search.nextOf node) = some edge → 0 < edge.capacity →
      levelOf levels edge.target = levelOf levels node + 1 →
        edge.target ≠ sink ∧ (search.net.edgesOf edge.target).length ≤ search.nextOf edge.target) :
    DeadEnds levels sink (search.advance node) := by
  intro other index edge before found open_ higher
  have grown (any : Nat) : search.nextOf any ≤ (search.advance node).nextOf any := by
    rw [search.nextOf_advance node any inside]
    split
    · rename_i here
      rw [here]
      omega
    · exact le_refl _
  have known : edge.target ≠ sink ∧ (search.net.edgesOf edge.target).length ≤
      search.nextOf edge.target := by
    rw [search.nextOf_advance node other inside] at before
    by_cases here : other = node
    · subst here
      rw [if_pos rfl] at before
      by_cases last : index = search.nextOf other
      · subst last
        exact passed edge found open_ higher
      · exact ends other index edge (by omega) found open_ higher
    · rw [if_neg here] at before
      exact ends other index edge before found open_ higher
  exact ⟨known.1, known.2.trans (grown edge.target)⟩

theorem scanEdges_exhausted {levels : Levels} {sink node : Nat} (apart : node ≠ sink)
    (descend : Nat → Int → Search → Option (Int × Search))
    (descends : ∀ target limit (search : Search) pushed after, search.next.length = search.net.length →
      DeadEnds levels sink search → 0 < limit → levelOf levels target = levelOf levels node + 1 →
        pushed ≤ 0 →
      descend target limit search = some (pushed, after) → Exhausted levels sink target search after)
    {limit : Int} (positive : 0 < limit) (passes : Nat) {search after : Search} {pushed : Int}
    (pointers : search.next.length = search.net.length) (ends : DeadEnds levels sink search)
    (nothing : pushed ≤ 0)
    (done : scanEdges levels descend node limit passes search = some (pushed, after)) :
    Exhausted levels sink node search after := by
  induction passes generalizing search with
  | zero => cases done
  | succ passes ih =>
      unfold scanEdges at done
      cases found : search.net.edgeAt node (search.nextOf node) with
      | none =>
          rw [found] at done
          cases done
          exact ⟨apart, rfl, pointers, ends, List.getElem?_eq_none_iff.1 found,
            fun _ => le_refl _, fun _ _ => rfl⟩
      | some edge =>
          rw [found] at done
          dsimp only at done
          have inside : node < search.next.length := by
            rw [pointers]
            exact Adjacency.lt_length_of_edgeAt found
          -- The state in which the loop goes on, with the pointer past an edge that leads nowhere.
          have onward (middle : Search) (same : middle.net = search.net)
              (length : middle.next.length = middle.net.length)
                (there : middle.nextOf node = search.nextOf node)
              (grown : ∀ other, search.nextOf other ≤ middle.nextOf other)
              (lower : ∀ other, levelOf levels other < levelOf levels node →
                middle.nextOf other = search.nextOf other)
              (known : DeadEnds levels sink middle)
              (passed : 0 < edge.capacity → levelOf levels edge.target = levelOf levels node + 1 →
                edge.target ≠ sink ∧ (search.net.edgesOf edge.target).length ≤ middle.nextOf edge.target)
              (rest : scanEdges levels descend node limit passes (middle.advance node) =
                some (pushed, after)) :
              Exhausted levels sink node search after := by
            have position : node < middle.next.length := by
              rw [length, same, ← pointers]
              exact inside
            have pointer := middle.nextOf_advance node
            have run : Exhausted levels sink node (middle.advance node) after := ih
              (by
                show (middle.next.set node _).length = middle.net.length
                rw [List.length_set, length])
              (by
                refine known.advance position ?_
                intro other present open_ higher
                rw [same, there, found, Option.some.injEq] at present
                rw [← present, same] at *
                exact passed open_ higher)
              rest
            refine ⟨apart, run.same.trans same, run.pointers, run.ends, run.finished, ?_, ?_⟩
            · intro other
              have later := run.grown other
              have earlier := grown other
              rw [pointer other position] at later
              split at later
              · rename_i here
                subst here
                omega
              · omega
            · intro other below
              have different : ¬ other = node := by
                rintro rfl
                omega
              rw [run.lower other below, pointer other position, if_neg different]
              exact lower other below
          by_cases passed : edge.capacity ≤ 0 ∨ levelOf levels edge.target ≠ levelOf levels node + 1
          · rw [if_pos passed] at done
            exact onward search.count rfl pointers rfl (fun _ => le_refl _) (fun _ _ => rfl) ends
              (fun open_ higher => by omega) done
          · rw [if_neg passed] at done
            cases descended : descend edge.target (min limit edge.capacity) search.count with
            | none =>
                rw [descended] at done
                cases done
            | some result =>
                obtain ⟨moved, middle⟩ := result
                rw [descended] at done
                dsimp only at done
                by_cases some_ : 0 < moved
                · rw [if_pos some_] at done
                  cases done
                  omega
                · rw [if_neg some_] at done
                  have below :=
                    descends edge.target (min limit edge.capacity) search.count moved middle pointers
                    ends (by omega) (by omega) (by omega) descended
                  refine onward middle below.same below.pointers (below.lower node (by omega)) below.grown
                    (fun other lower => below.lower other (by omega)) below.ends ?_ done
                  intro _ _
                  have finished := below.finished
                  rw [below.same] at finished
                  exact ⟨below.apart, finished⟩

theorem augment_exhausted {levels : Levels} (sink depth : Nat) : ∀ (node : Nat) {limit : Int}
    {search after : Search} {pushed : Int}, search.next.length = search.net.length →
      DeadEnds levels sink search →
    0 < limit → pushed ≤ 0 → augment levels sink depth node limit search = some (pushed, after) →
    Exhausted levels sink node search after := by
  induction depth with
  | zero => intro node limit search after pushed _ _ _ _ done; cases done
  | succ depth ih =>
      intro node limit search after pushed pointers ends positive nothing done
      unfold augment at done
      by_cases arrived : node = sink
      · rw [if_pos arrived] at done
        cases done
        omega
      · rw [if_neg arrived] at done
        exact scanEdges_exhausted arrived (augment levels sink depth)
          (fun target limit search pushed after pointers ends room _ nothing result =>
            ih target pointers ends room nothing result)
          positive _ pointers ends nothing done

/-- A search that ends at the source with nothing has closed every visited node, so the sink is not among
them. The induction is on the level. -/
theorem Exhausted.sink_unvisited {levels : Levels} {source sink : Nat} {search after : Search}
    (nothing : Exhausted levels sink source search after) (rooted : levelOf levels source = 0)
    (parents : Parented search.net source levels) : levelOf levels sink < 0 := by
  have closed (height : Nat) : ∀ node, levelOf levels node = height →
      node ≠ sink ∧ (after.net.edgesOf node).length ≤ after.nextOf node := by
    induction height with
    | zero =>
        intro node level
        rcases parents node (by omega) with rfl | ⟨before, visited, edge, member, open_, target, higher⟩
        · exact ⟨nothing.apart, nothing.finished⟩
        · omega
    | succ height ih =>
        intro node level
        rcases parents node (by omega) with rfl | ⟨before, visited, edge, member, open_, target, higher⟩
        · omega
        · have finished := (ih before (by omega)).2
          rw [← nothing.same] at member
          obtain ⟨index, found⟩ := List.mem_iff_getElem?.1 member
          have inside : index < (after.net.edgesOf before).length := (List.getElem?_eq_some_iff.1 found).1
          rw [← target]
          exact nothing.ends before index edge (by omega) found open_ (by rw [target, higher])
  by_contra visited
  exact (closed (levelOf levels sink).toNat sink (by omega)).1 rfl

/-- The first search of a phase pushes something. -/
theorem augment_progress {net : Adjacency} {source sink iterations : Nat} (paired : net.Paired)
    (inside : source < net.length) (reached : 0 ≤ levelOf (buildLevels net source iterations).1 sink)
    {depth count : Nat} {limit pushed : Int} {after : Search} (positive : 0 < limit)
    (done : augment (buildLevels net source iterations).1 sink depth source limit
      ⟨net, List.replicate net.length 0, count⟩ = some (pushed, after)) : 0 < pushed := by
  have inRange : ∀ node, ∀ edge ∈ net.edgesOf node, edge.target < net.length := by
    intro node edge member
    obtain ⟨index, present⟩ := List.mem_iff_getElem?.1 member
    exact paired.target_lt present
  by_contra nothing
  have fresh : DeadEnds (buildLevels net source iterations).1 sink
      ⟨net, List.replicate net.length 0, count⟩ := by
    intro node index edge before
    have zero : (List.replicate net.length 0).getD node 0 = 0 := by
      rw [List.getD_eq_getElem?_getD, List.getElem?_replicate]
      split <;> rfl
    exact absurd (before.trans_eq zero) (Nat.not_lt_zero index)
  have exhausted := augment_exhausted sink depth source List.length_replicate fresh positive
    (not_lt.1 nothing) done
  have unvisited := exhausted.sink_unvisited (buildLevels_spec inRange source iterations inside).2.1
    (buildLevels_parents inRange source iterations inside)
  omega

/-! The loops without a budget. -/

/-- The cut round the source alone; its capacity bounds what can still be pushed. -/
def sourceCut (source : Nat) (net : Adjacency) :
    Int := Adjacency.cut (fun node => decide (node = source)) net

theorem augmentAll_ends {levels : Levels} {source sink : Nat} (different : source ≠ sink)
    (rooted : levelOf levels source = 0) (room : Nat) {total : Int} (started : 0 ≤ total ∧ total ≤ int64Max)
    {search : Search} (valid : search.Valid) (nonneg : search.net.NonNegative)
    (bounded : ∀ node, levelOf levels node ≤ search.net.length + 1)
    (left : sourceCut source search.net ≤ room) :
    ∃ budget reached after, 0 ≤ reached ∧ reached ≤ int64Max ∧ after.Valid ∧ after.net.NonNegative ∧
      after.net.length = search.net.length ∧ search.iterations ≤ after.iterations ∧
      sourceCut source after.net ≤ sourceCut source search.net ∧
      ((∀ pushed middle, augment levels sink (search.net.length + 2) source kInfinite search =
        some (pushed, middle) → 0 < pushed) → sourceCut source after.net < sourceCut source search.net) ∧
      ∀ maxIterations fuel, budget ≤ maxIterations →
        maxIterations + 2 ≤ fuel + search.iterations → 0 < fuel →
        augmentAll levels source sink maxIterations fuel total search = some (reached, after) := by
  induction room using Nat.strong_induction_on generalizing total search with
  | _ room ih =>
      obtain ⟨pushed, middle, done, run⟩ := augment_spec sink (search.net.length + 1) bounded
        (search.net.length + 2) source kInfinite search valid (by decide) (by rw [rooted]; omega)
      have within := augment_within sink _ source nonneg (by decide) done
      have extended := run.extends_
      have change : sourceCut source middle.net = sourceCut source search.net - pushed := by
        have cut := run.cut fun node => decide (node = source)
        rw [decide_eq_true rfl, decide_eq_false (Ne.symm different)] at cut
        unfold sourceCut
        simp only [↓reduceIte, Bool.false_eq_true] at cut
        omega
      by_cases stuck : pushed ≤ 0
      · refine ⟨search.iterations, total, middle, started.1, started.2, extended.valid, within.nonneg,
          extended.length, extended.iterations, ?_, ?_, ?_⟩
        · have := run.nonneg
          omega
        · intro progress
          have := progress pushed middle done
          omega
        · intro maxIterations fuel budget enough some_
          obtain ⟨rest, rfl⟩ : ∃ rest, fuel = rest + 1 := ⟨fuel - 1, by omega⟩
          rw [augmentAll, if_neg (by omega), done]
          exact if_pos stuck
      · have remains : 0 ≤ sourceCut source middle.net := within.nonneg.cut _
        have total_ : satAdd total pushed = min int64Max (total + pushed) :=
          satAdd_of_nonneg (by omega) started.2
        have next : 0 ≤ satAdd total pushed ∧ satAdd total pushed ≤ int64Max := by
          rw [total_]
          unfold int64Max
          omega
        obtain ⟨budget, reached, after, low, high, validAfter, nonnegAfter, length,
            iterations, less, -, ends⟩ :=
          ih (sourceCut source middle.net).toNat (by omega) next extended.valid within.nonneg
            (by rw [extended.length]; exact bounded) (by omega)
        have counted := run.counted different (by omega)
        refine ⟨max budget search.iterations, reached, after, low, high, validAfter, nonnegAfter,
          length.trans extended.length,
            extended.iterations.trans iterations, by omega, fun _ => by omega, ?_⟩
        intro maxIterations fuel enoughBudget enough some_
        obtain ⟨rest, rfl⟩ : ∃ rest, fuel = rest + 1 := ⟨fuel - 1, by omega⟩
        rw [augmentAll, if_neg (by omega), done]
        exact (if_neg stuck).trans (ends maxIterations rest (by omega) (by omega) (by omega))

/-- Without the bound on the iterations the loop ends: from some budget on the outcome is a flow, and the
same one whatever the budget is. -/
theorem flowPhases_ends {source sink : Nat} (different : source ≠ sink) (room : Nat) {total : Int}
    (started : 0 ≤ total ∧ total ≤ int64Max) {net : Adjacency} (iterations : Nat) (paired : net.Paired)
    (nonneg : net.NonNegative) (inside : source < net.length) (left : sourceCut source net ≤ room) :
    ∃ budget flow residual, 0 ≤ flow ∧
      ∀ maxIterations fuel, budget ≤ maxIterations → maxIterations + 2 ≤ fuel + iterations → 0 < fuel →
        flowPhases source sink maxIterations fuel total net iterations = some (flow, residual) := by
  induction room using Nat.strong_induction_on generalizing total net iterations with
  | _ room ih =>
      have inRange : ∀ node, ∀ edge ∈ net.edgesOf node, edge.target < net.length := by
        intro node edge member
        obtain ⟨index, present⟩ := List.mem_iff_getElem?.1 member
        exact paired.target_lt present
      obtain ⟨-, rooted, bounded, counted⟩ := buildLevels_spec inRange source iterations inside
      by_cases severed : levelOf (buildLevels net source iterations).1 sink < 0
      · refine ⟨0, total, net, started.1, ?_⟩
        intro maxIterations fuel _ _ some_
        obtain ⟨rest, rfl⟩ : ∃ rest, fuel = rest + 1 := ⟨fuel - 1, by omega⟩
        rw [flowPhases]
        exact if_pos severed
      · obtain ⟨budget, reached, after, low, high, valid, nonnegAfter, length, grown, -, progress, ends⟩ :=
          augmentAll_ends different rooted room started
            (show Search.Valid
              ⟨net, List.replicate net.length 0, (buildLevels net source iterations).2⟩ from
              ⟨paired, List.length_replicate⟩) nonneg bounded left
        have remains : 0 ≤ sourceCut source after.net := nonnegAfter.cut _
        have smaller : sourceCut source after.net < sourceCut source net :=
            progress fun pushed middle done =>
          augment_progress paired inside (not_lt.1 severed) (by decide) done
        dsimp only at length grown
        obtain ⟨later, flow, residual, nonneg_, result⟩ := ih (sourceCut source after.net).toNat (by omega)
          ⟨low, high⟩ after.iterations valid.paired nonnegAfter (by rw [length]; exact inside) (by omega)
        refine ⟨max (max budget later) (buildLevels net source iterations).2, flow, residual, nonneg_, ?_⟩
        intro maxIterations fuel enoughBudget enough some_
        obtain ⟨rest, rfl⟩ : ∃ rest, fuel = rest + 1 := ⟨fuel - 1, by omega⟩
        rw [flowPhases, if_neg severed, if_neg (by omega), ends maxIterations (maxIterations + 2) (by omega)
          (by omega) (by omega)]
        exact (if_neg (by omega)).trans (result maxIterations rest (by omega) (by omega) (by omega))

theorem maxFlow_ends {net : Adjacency} {source sink : Nat} (paired : net.Paired) (nonneg : net.NonNegative)
    (inside : source < net.length) (different : source ≠ sink) :
    ∃ budget flow residual, 0 ≤ flow ∧ ∀ maxIterations, budget ≤ maxIterations →
      maxFlow net source sink maxIterations = some (flow, residual) := by
  obtain ⟨budget, flow, residual, low, result⟩ := flowPhases_ends different (sourceCut source net).toNat
    (show 0 ≤ (0 : Int) ∧ (0 : Int) ≤ int64Max from ⟨le_refl 0, by decide⟩) 0 paired nonneg inside
    (Int.self_le_toNat _)
  exact ⟨budget, flow, residual, low, fun maxIterations enough =>
    result maxIterations (maxIterations + 2) enough (by omega) (by omega)⟩

end FlowNetwork

end TrafficFabric
