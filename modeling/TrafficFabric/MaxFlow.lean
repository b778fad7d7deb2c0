import TrafficFabric.FlowLevels

set_option autoImplicit false

/- What the augmenting searches change: each of them lowers the capacity that leaves any
set holding the source but not the sink by exactly what it pushes. The search never runs
out of the fuel it is given. -/
namespace TrafficFabric

namespace FlowNetwork

def endpoints (net : Adjacency) (node index : Nat) : Option (Nat × Nat) :=
  (net.edgeAt node index).map fun edge => (edge.target, edge.reverse)

/-- A search state whose pointers match its network. -/
structure Search.Valid (search : Search) : Prop where
  paired : search.net.Paired
  pointers : search.next.length = search.net.length

/-- Everything a search leaves alone or only lets grow. -/
structure Search.Extends (search after : Search) : Prop where
  valid : after.Valid
  length : after.net.length = search.net.length
  rows : ∀ node, (after.net.edgesOf node).length = (search.net.edgesOf node).length
  shape : ∀ node index, endpoints after.net node index = endpoints search.net node index
  next : ∀ node, search.nextOf node ≤ after.nextOf node
  iterations : search.iterations ≤ after.iterations

theorem Search.Extends.refl {search : Search} (valid : search.Valid) : search.Extends search :=
  ⟨valid, rfl, fun _ => rfl, fun _ _ => rfl, fun _ => le_refl _, le_refl _⟩

theorem Search.Extends.trans {first second third : Search} (early : first.Extends second)
    (late : second.Extends third) : first.Extends third :=
  ⟨late.valid, late.length.trans early.length, fun node => (late.rows node).trans (early.rows node),
    fun node index => (late.shape node index).trans (early.shape node index),
    fun node => (early.next node).trans (late.next node), early.iterations.trans late.iterations⟩

theorem Search.extends_count {search : Search} (valid : search.Valid) :
    search.Extends search.count :=
  ⟨⟨valid.paired, valid.pointers⟩, rfl, fun _ => rfl, fun _ _ => rfl, fun _ => le_refl _, Nat.le_succ _⟩

theorem Search.nextOf_advance (search : Search) (node other : Nat)
    (inside : node < search.next.length) :
    (search.advance node).nextOf other =
      if other = node then search.nextOf node + 1 else search.nextOf other := by
  unfold Search.nextOf Search.advance
  dsimp only
  rw [List.getD_eq_getElem?_getD, List.getElem?_set]
  by_cases same : other = node
  · subst same
    simp [inside, Search.nextOf]
  · have different : node ≠ other := fun equal => same equal.symm
    simp [same, different, List.getD_eq_getElem?_getD]

theorem Search.extends_advance {search : Search} (valid : search.Valid) {node : Nat}
    (inside : node < search.net.length) : search.Extends (search.advance node) := by
  have position : node < search.next.length := by rw [valid.pointers]; exact inside
  refine ⟨⟨valid.paired, ?_⟩, rfl, fun _ => rfl, fun _ _ => rfl, ?_, le_refl _⟩
  · show (search.next.set node (search.nextOf node + 1)).length = search.net.length
    rw [List.length_set, valid.pointers]
  · intro other
    rw [search.nextOf_advance node other position]
    split
    · rename_i same
      subst same
      omega
    · exact le_refl _

theorem endpoints_addCapacity (net : Adjacency) (node index other position : Nat) (amount : Int) :
    endpoints (net.addCapacity node index amount) other position =
      endpoints net other position := by
  unfold endpoints
  rw [Adjacency.edgeAt_addCapacity]
  split
  · rw [Option.map_map]
    rfl
  · rfl

theorem Search.extends_push {search : Search} (valid : search.Valid) (node index : Nat)
    (edge : Edge) (amount : Int) :
    search.Extends { search with net := search.net.push node index edge amount } := by
  refine ⟨⟨valid.paired.push node index edge amount, ?_⟩, ?_, ?_, ?_, fun _ => le_refl _, le_refl _⟩
  · rw [Adjacency.length_push]
    exact valid.pointers
  · exact Adjacency.length_push _ _ _ _ _
  · intro other
    exact Adjacency.length_edgesOf_push _ _ _ _ _ _
  · intro other position
    simp only [Adjacency.push, endpoints_addCapacity]

/-- The outcome of a search from a node that pushed an amount to the sink. -/
structure Augmented (sink node : Nat) (search after : Search) (pushed : Int) : Prop where
  extends_ : search.Extends after
  nonneg : 0 ≤ pushed
  counted : node ≠ sink → 0 < pushed → search.iterations < after.iterations
  cut : ∀ side, Adjacency.cut side after.net = Adjacency.cut side search.net -
    (if side node then pushed else 0) + (if side sink then pushed else 0)

/-- Steps that leave the network alone can stand before a search. -/
theorem Augmented.after_step {sink node : Nat} {search middle after : Search} {pushed : Int}
    (step : search.Extends middle) (same : middle.net = search.net)
    (run : Augmented sink node middle after pushed) : Augmented sink node search after pushed := by
  refine ⟨step.trans run.extends_, run.nonneg, ?_, ?_⟩
  · intro different positive
    have earlier := step.iterations
    have later := run.counted different positive
    omega
  · intro side
    rw [run.cut side, same]

/-- A search that found nothing leaves every cut as it was, so the next one starts afresh. -/
theorem Augmented.after_nothing {sink node other : Nat} {search middle after : Search}
    {pushed : Int} (nothing : Augmented sink other search middle 0)
    (run : Augmented sink node middle after pushed) : Augmented sink node search after pushed := by
  refine ⟨nothing.extends_.trans run.extends_, run.nonneg, ?_, ?_⟩
  · intro different positive
    have earlier := nothing.extends_.iterations
    have later := run.counted different positive
    omega
  · intro side
    have unchanged := nothing.cut side
    simp only [ite_self] at unchanged
    rw [run.cut side, unchanged]
    omega

theorem scanEdges_spec {levels : Levels} {sink node : Nat}
    (descend : Nat → Int → Search → Option (Int × Search))
    (descends : ∀ target limit (search : Search), search.Valid → 0 < limit →
      levelOf levels target = levelOf levels node + 1 →
      ∃ pushed after, descend target limit search = some (pushed, after) ∧
        Augmented sink target search after pushed)
    (limit : Int) (positive : 0 < limit) (passes : Nat) (search : Search) (valid : search.Valid)
    (enough : (search.net.edgesOf node).length < search.nextOf node + passes) (some_ : 0 < passes) :
    ∃ pushed after, scanEdges levels descend node limit passes search = some (pushed, after) ∧
      Augmented sink node search after pushed := by
  induction passes generalizing search with
  | zero => omega
  | succ passes ih =>
      unfold scanEdges
      cases found : search.net.edgeAt node (search.nextOf node) with
      | none =>
          refine ⟨0, search, rfl, ⟨Search.Extends.refl valid, le_refl _, ?_, ?_⟩⟩
          · intro _ impossible
            omega
          · intro side
            simp
      | some edge =>
          have inside : node < search.net.length := Adjacency.lt_length_of_edgeAt found
          have index : search.nextOf node < (search.net.edgesOf node).length :=
            (List.getElem?_eq_some_iff.mp found).1
          have counted := Search.extends_count valid
          simp only
          split
          · -- The edge is full or leads off the level graph.
            have advanced := Search.extends_advance counted.valid
              (show node < search.count.net.length from inside)
            have pointer := search.count.nextOf_advance node node
              (by rw [counted.valid.pointers]; exact inside)
            rw [if_pos rfl] at pointer
            have step : (search.count.advance node).nextOf node = search.nextOf node + 1 := pointer
            obtain ⟨pushed, after, done, run⟩ := ih (search.count.advance node) advanced.valid
              (by
                rw [advanced.rows, counted.rows, step]
                omega)
              (by omega)
            exact ⟨pushed, after, done, run.after_step (counted.trans advanced) rfl⟩
          · rename_i usable
            have open_ : 0 < edge.capacity := by
              by_contra closed
              exact usable (Or.inl (by omega))
            have level : levelOf levels edge.target = levelOf levels node + 1 := by
              by_contra off
              exact usable (Or.inr off)
            obtain ⟨pushed, after, done, deeper⟩ := descends edge.target (min limit edge.capacity)
              search.count counted.valid (lt_min positive open_) level
            have deeperHere := deeper.extends_
            simp only [done]
            split
            · rename_i moved
              -- The edge still ends where it did, so the push lands on its own pair.
              have kept := deeperHere.shape node (search.nextOf node)
              unfold endpoints at kept
              rw [show search.count.net = search.net from rfl, found] at kept
              obtain ⟨current, present, ends⟩ := Option.map_eq_some_iff.mp kept
              simp only [Prod.mk.injEq] at ends
              have samePush : after.net.push node (search.nextOf node) edge pushed =
                  after.net.push node (search.nextOf node) current pushed := by
                simp only [Adjacency.push, ends.1, ends.2]
              have pushedOn := Search.extends_push deeperHere.valid node (search.nextOf node) edge
                pushed
              refine ⟨pushed, _, rfl,
                ⟨(counted.trans deeperHere).trans pushedOn, deeper.nonneg, ?_, ?_⟩⟩
              · intro _ _
                have grown := deeperHere.iterations
                show search.iterations < after.iterations
                have one : search.count.iterations = search.iterations + 1 := rfl
                omega
              · intro side
                show Adjacency.cut side (after.net.push node (search.nextOf node) edge pushed) = _
                rw [samePush, Adjacency.cut_push side deeperHere.valid.paired pushed present,
                  deeper.cut side, ends.1, show search.count.net = search.net from rfl]
                omega
            · rename_i still
              have zero : pushed = 0 := by
                have bound := deeper.nonneg
                omega
              subst zero
              have row : node < after.net.length := by
                rw [deeperHere.length]
                exact inside
              have advanced := Search.extends_advance deeperHere.valid row
              have pointer := after.nextOf_advance node node
                (by rw [deeperHere.valid.pointers]; exact row)
              rw [if_pos rfl] at pointer
              have grown := deeperHere.next node
              have start : search.count.nextOf node = search.nextOf node := rfl
              obtain ⟨amount, final, finished, run⟩ := ih (after.advance node) advanced.valid
                (by
                  rw [advanced.rows, deeperHere.rows, counted.rows, pointer]
                  omega)
                (by omega)
              refine ⟨amount, final, finished, ?_⟩
              have later := run.after_step advanced rfl
              exact (deeper.after_nothing later).after_step counted rfl

/-- With depth left for every level above the node, the search always returns. -/
theorem augment_spec {levels : Levels} (sink : Nat) (ceiling : Int)
    (bounded : ∀ node, levelOf levels node ≤ ceiling) (depth node : Nat) (limit : Int)
    (search : Search) (valid : search.Valid) (positive : 0 < limit)
    (enough : ceiling - levelOf levels node < depth) :
    ∃ pushed after, augment levels sink depth node limit search = some (pushed, after) ∧
      Augmented sink node search after pushed := by
  induction depth generalizing node limit search with
  | zero =>
      have bound := bounded node
      omega
  | succ depth ih =>
      unfold augment
      by_cases arrived : node = sink
      · rw [if_pos arrived]
        refine ⟨limit, search, rfl, ⟨Search.Extends.refl valid, by omega, ?_, ?_⟩⟩
        · intro different
          exact absurd arrived different
        · intro side
          rw [arrived]
          omega
      · rw [if_neg arrived]
        apply scanEdges_spec
        · intro target room state stateValid roomPositive level
          exact ih target room state stateValid roomPositive (by omega)
        · exact positive
        · exact valid
        · omega
        · omega

/-! The outer loops. -/

/-- How far a run has lowered every cut between the source and the sink. -/
def Lowered (source sink : Nat) (before after : Adjacency) (amount : Int) : Prop :=
  ∀ side : Nat → Bool, side source = true → side sink = false →
    Adjacency.cut side after = Adjacency.cut side before - amount

theorem augmentAll_spec {levels : Levels} {source sink : Nat} (different : source ≠ sink)
    (maxIterations fuel : Nat) (total : Int) (search : Search) (moved : Int) (valid : search.Valid)
    (bounded : ∀ node, levelOf levels node ≤ search.net.length + 1)
    (rooted : levelOf levels source = 0) (exact : total = min int64Max moved) (nonneg : 0 ≤ moved)
    (enough : maxIterations + 2 ≤ fuel + search.iterations) (some_ : 0 < fuel) :
    ∃ reached after, augmentAll levels source sink maxIterations fuel total search =
        some (reached, after) ∧ after.Valid ∧ after.net.length = search.net.length ∧
      search.iterations ≤ after.iterations ∧
      (reached = -1 ∨ ∃ more, 0 ≤ more ∧ reached = min int64Max (moved + more) ∧
        Lowered source sink search.net after.net more) := by
  induction fuel generalizing total search moved with
  | zero => omega
  | succ fuel ih =>
      unfold augmentAll
      by_cases spent : maxIterations < search.iterations
      · rw [if_pos spent]
        exact ⟨-1, search, rfl, valid, rfl, le_refl _, Or.inl rfl⟩
      · rw [if_neg spent]
        obtain ⟨pushed, after, done, run⟩ := augment_spec sink (search.net.length + 1) bounded
          (search.net.length + 2) source kInfinite search valid (by decide)
          (by rw [rooted]; omega)
        have extended := run.extends_
        simp only [done]
        by_cases stuck : pushed ≤ 0
        · rw [if_pos stuck]
          have zero : pushed = 0 := by
            have bound := run.nonneg
            omega
          subst zero
          refine ⟨total, after, rfl, extended.valid, extended.length, extended.iterations,
            Or.inr ⟨0, le_refl _, by rw [exact, Int.add_zero], ?_⟩⟩
          intro side inside outside
          have change := run.cut side
          simp only [ite_self] at change
          omega
        · rw [if_neg stuck]
          have counted := run.counted different (by omega)
          have small : total ≤ int64Max := by
            rw [exact]
            exact min_le_left _ _
          have next : satAdd total pushed = min int64Max (moved + pushed) := by
            rw [satAdd_of_nonneg (by omega) small, exact]
            omega
          obtain ⟨reached, final, finished, finalValid, length, iterations, outcome⟩ :=
            ih (satAdd total pushed) after (moved + pushed) extended.valid
              (by rw [extended.length]; exact bounded) next (by omega) (by omega) (by omega)
          refine ⟨reached, final, finished, finalValid, length.trans extended.length,
            extended.iterations.trans iterations, ?_⟩
          rcases outcome with exhausted | ⟨more, moreNonneg, value, lowered⟩
          · exact Or.inl exhausted
          · refine Or.inr ⟨pushed + more, by omega, by rw [value, Int.add_assoc], ?_⟩
            intro side inside outside
            have change := run.cut side
            rw [inside, outside] at change
            have rest := lowered side inside outside
            simp only [↓reduceIte, Bool.false_eq_true] at change
            omega

/-- The side of the nodes a search has visited. -/
def visitedSide (levels : Levels) : Nat → Bool := fun node => decide (0 ≤ levelOf levels node)

/-- The levels do not depend on the count of iterations. -/
theorem searchLevels_levels (net : Adjacency) (fuel : Nat) (levels : Levels) (queue : List Nat)
    (first second : Nat) :
    (searchLevels net fuel levels queue first).1 = (searchLevels net fuel levels queue second).1 := by
  induction fuel generalizing levels queue first second with
  | zero => rfl
  | succ fuel ih =>
      cases queue with
      | nil => rfl
      | cons node rest => exact ih _ _ _ _

theorem buildLevels_levels (net : Adjacency) (source first second : Nat) :
    (buildLevels net source first).1 = (buildLevels net source second).1 :=
  searchLevels_levels _ _ _ _ _ _

/-- A network without a way from the source to the sink. -/
structure Severed (net : Adjacency) (source sink : Nat) : Prop where
  rooted : visitedSide (buildLevels net source 0).1 source = true
  apart : visitedSide (buildLevels net source 0).1 sink = false
  closed : Adjacency.cut (visitedSide (buildLevels net source 0).1) net ≤ 0

theorem flowPhases_spec {source sink : Nat} (different : source ≠ sink) (maxIterations fuel : Nat)
    (total : Int) (net : Adjacency) (iterations : Nat) (moved : Int) (paired : net.Paired)
    (inside : source < net.length) (exact : total = min int64Max moved) (nonneg : 0 ≤ moved)
    (enough : maxIterations + 2 ≤ fuel + iterations) (some_ : 0 < fuel) :
    ∃ reached after, flowPhases source sink maxIterations fuel total net iterations =
        some (reached, after) ∧
      (reached = -1 ∨ ∃ more, 0 ≤ more ∧ reached = min int64Max (moved + more) ∧
        Lowered source sink net after more ∧ Severed after source sink) := by
  induction fuel generalizing total net iterations moved with
  | zero => omega
  | succ fuel ih =>
      have inRange : ∀ node, ∀ edge ∈ net.edgesOf node, edge.target < net.length := by
        intro node edge member
        obtain ⟨index, present⟩ := List.mem_iff_getElem?.mp member
        exact paired.target_lt present
      obtain ⟨closed, rooted, bounded, counted⟩ := buildLevels_spec inRange source iterations inside
      unfold flowPhases
      simp only
      by_cases severed : levelOf (buildLevels net source iterations).1 sink < 0
      · rw [if_pos severed]
        rw [buildLevels_levels net source iterations 0] at severed closed rooted
        refine ⟨total, net, rfl, Or.inr ⟨0, le_refl _, by rw [exact, Int.add_zero], ?_, ?_, ?_, ?_⟩⟩
        · intro side _ _
          omega
        · simp [visitedSide, rooted]
        · simpa [visitedSide] using severed
        · -- Nothing with capacity leaves the visited nodes.
          apply Adjacency.cut_nonpos_of_closed
          intro node index edge present visited positive
          have member : edge ∈ net.edgesOf node := List.mem_of_getElem? present
          simp only [visitedSide, decide_eq_true_eq] at visited ⊢
          exact closed node visited edge member positive
      · rw [if_neg severed]
        by_cases spent : maxIterations < (buildLevels net source iterations).2
        · rw [if_pos spent]
          exact ⟨-1, net, rfl, Or.inl rfl⟩
        · rw [if_neg spent]
          obtain ⟨reached, after, done, valid, length, grown, outcome⟩ := augmentAll_spec different
            maxIterations (maxIterations + 2) total
            { net := net, next := List.replicate net.length 0,
              iterations := (buildLevels net source iterations).2 } moved
            ⟨paired, by simp⟩ bounded rooted exact nonneg (by omega) (by omega)
          simp only [done]
          dsimp only at length grown
          rcases outcome with exhausted | ⟨pushed, pushedNonneg, value, lowered⟩
          · rw [if_pos (by omega)]
            exact ⟨-1, after.net, rfl, Or.inl rfl⟩
          · have large : (0 : Int) ≤ int64Max := by decide
            rw [if_neg (by omega)]
            obtain ⟨final, residual, finished, result⟩ := ih reached after.net after.iterations
              (moved + pushed) valid.paired (by rw [length]; exact inside) value (by omega)
              (by omega) (by omega)
            refine ⟨final, residual, finished, ?_⟩
            rcases result with exhausted | ⟨more, moreNonneg, total_, rest, severed⟩
            · exact Or.inl exhausted
            · refine Or.inr ⟨pushed + more, by omega, by rw [total_, Int.add_assoc], ?_, severed⟩
              intro side inSide outSide
              have change := lowered side inSide outSide
              have later := rest side inSide outSide
              dsimp only at change
              omega

/-- A completed max-flow has lowered every cut by what it moved, and leaves no way through. -/
theorem maxFlow_lowered {net : Adjacency} {source sink : Nat} (paired : net.Paired)
    (inside : source < net.length) (different : source ≠ sink) (maxIterations : Nat) :
    ∃ flow after, maxFlow net source sink maxIterations = some (flow, after) ∧
      (flow = -1 ∨ ∃ exact, 0 ≤ exact ∧ flow = min int64Max exact ∧
        Lowered source sink net after exact ∧ Severed after source sink) := by
  obtain ⟨flow, after, done, outcome⟩ := flowPhases_spec different maxIterations
    (maxIterations + 2) 0 net 0 0 paired inside (by decide) (le_refl _) (by omega) (by omega)
  refine ⟨flow, after, done, ?_⟩
  rcases outcome with exhausted | ⟨more, nonneg, value, lowered, severed⟩
  · exact Or.inl exhausted
  · exact Or.inr ⟨more, nonneg, by rw [value, Int.zero_add], lowered, severed⟩

end FlowNetwork

end TrafficFabric
