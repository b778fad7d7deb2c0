import TrafficFabric.FlowNetwork

set_option autoImplicit false

/- The breadth-first search visits every node it can reach: when the queue is empty no
edge with capacity leads from a visited node to an unvisited one. -/
namespace TrafficFabric

namespace FlowNetwork

def unvisited (levels : Levels) : Nat := levels.countP (fun level => decide (level < 0))

theorem levelOf_set {levels : Levels} {node : Nat} (inside : node < levels.length) (level : Int)
    (other : Nat) :
    levelOf (levels.set node level) other = if other = node then level else levelOf levels other := by
  unfold levelOf
  rw [List.getD_eq_getElem?_getD, List.getD_eq_getElem?_getD, List.getElem?_set]
  by_cases same : other = node
  · subst same
    simp [inside]
  · have different : node ≠ other := fun equal => same equal.symm
    simp [same, different]

theorem unvisited_set {levels : Levels} {node : Nat} (inside : node < levels.length) {level : Int}
    (fresh : levelOf levels node < 0) (visited : 0 ≤ level) :
    unvisited (levels.set node level) + 1 = unvisited levels := by
  have current : levels[node] < 0 := by
    unfold levelOf at fresh
    rw [List.getD_eq_getElem?_getD, List.getElem?_eq_getElem inside] at fresh
    exact fresh
  have positive : 0 < unvisited levels := by
    unfold unvisited
    rw [List.countP_pos_iff]
    exact ⟨levels[node], List.getElem_mem inside, by simpa using current⟩
  unfold unvisited at positive ⊢
  rw [List.countP_set inside]
  simp only [current, decide_true, ↓reduceIte, decide_eq_true_eq]
  rw [if_neg (by omega)]
  omega

/-- What scanning one row of edges does to the levels and the queue. -/
structure Visited (depth : Int) (edges : List Edge) (levels after : Levels)
    (queue queued : List Nat) : Prop where
  length : after.length = levels.length
  kept : ∀ node, 0 ≤ levelOf levels node → levelOf after node = levelOf levels node
  reached : ∀ edge ∈ edges, 0 < edge.capacity → 0 ≤ levelOf after edge.target
  fresh : ∀ node, 0 ≤ levelOf after node → 0 ≤ levelOf levels node ∨ node ∈ queued
  marked : ∀ node ∈ queued, node ∈ queue ∨ 0 ≤ levelOf after node
  older : ∀ node ∈ queue, node ∈ queued
  counted : unvisited after + queued.length = unvisited levels + queue.length
  bounded : ∀ node, levelOf after node ≤ max (levelOf levels node) (depth + 1)

theorem visitEdges_spec (depth : Int) (nonneg : 0 ≤ depth) (edges : List Edge) (levels : Levels)
    (queue : List Nat) (inside : ∀ edge ∈ edges, edge.target < levels.length) :
    Visited depth edges levels (visitEdges depth edges levels queue).1 queue
      (visitEdges depth edges levels queue).2 := by
  induction edges generalizing levels queue with
  | nil =>
      refine ⟨rfl, fun _ _ => rfl, by simp, fun _ visited => Or.inl visited,
        fun _ member => Or.inl member, fun _ member => member, rfl, fun _ => le_max_left _ _⟩
  | cons edge rest ih =>
      obtain ⟨first, later⟩ := List.forall_mem_cons.mp inside
      unfold visitEdges
      split
      · rename_i discovered
        have lookup := levelOf_set first (depth + 1)
        have run := ih (levels.set edge.target (depth + 1)) (queue ++ [edge.target])
          (by simpa using later)
        have count := unvisited_set first discovered.2 (show 0 ≤ depth + 1 by omega)
        have here : 0 ≤ levelOf (levels.set edge.target (depth + 1)) edge.target := by
          rw [lookup, if_pos rfl]
          omega
        refine ⟨?_, ?_, ?_, ?_, ?_, ?_, ?_, ?_⟩
        · rw [run.length, List.length_set]
        · intro node visited
          have different : node ≠ edge.target := by
            intro same
            rw [same] at visited
            omega
          have step : levelOf (levels.set edge.target (depth + 1)) node = levelOf levels node := by
            rw [lookup, if_neg different]
          rw [run.kept node (by omega), step]
        · intro other member positive
          rcases List.mem_cons.mp member with rfl | old
          · rw [run.kept _ here]
            exact here
          · exact run.reached other old positive
        · intro node visited
          rcases run.fresh node visited with old | queued
          · rw [lookup] at old
            split at old
            · rename_i same
              exact Or.inr (run.older node (by simp [same]))
            · exact Or.inl old
          · exact Or.inr queued
        · intro node queued
          rcases run.marked node queued with old | visited
          · rcases List.mem_append.mp old with before | added
            · exact Or.inl before
            · rw [List.mem_singleton] at added
              subst added
              right
              rw [run.kept _ here]
              exact here
          · exact Or.inr visited
        · intro node member
          exact run.older node (List.mem_append_left _ member)
        · have total := run.counted
          rw [List.length_append, List.length_singleton] at total
          omega
        · intro node
          have bound := run.bounded node
          rw [lookup] at bound
          split at bound <;> omega
      · rename_i skipped
        have run := ih levels queue later
        refine ⟨run.length, run.kept, ?_, run.fresh, run.marked, run.older, run.counted,
          run.bounded⟩
        intro other member positive
        rcases List.mem_cons.mp member with rfl | old
        · have visited : 0 ≤ levelOf levels other.target := by
            by_contra negative
            exact skipped ⟨positive, by omega⟩
          rw [run.kept _ visited]
          exact visited
        · exact run.reached other old positive

/-- Visited nodes are queued or have had all their edges scanned. -/
structure LevelsInv (net : Adjacency) (levels : Levels) (queue : List Nat) : Prop where
  length : levels.length = net.length
  queued : ∀ node ∈ queue, 0 ≤ levelOf levels node
  explored : ∀ node, 0 ≤ levelOf levels node → node ∈ queue ∨
    ∀ edge ∈ net.edgesOf node, 0 < edge.capacity → 0 ≤ levelOf levels edge.target

def Closed (net : Adjacency) (levels : Levels) : Prop :=
  ∀ node, 0 ≤ levelOf levels node →
    ∀ edge ∈ net.edgesOf node, 0 < edge.capacity → 0 ≤ levelOf levels edge.target

section Search

variable {net : Adjacency} (inRange : ∀ node, ∀ edge ∈ net.edgesOf node, edge.target < net.length)

include inRange in
/-- With fuel for every node still to be taken, the search ends with an empty queue. The
ceiling bounds the levels, one more for each node taken. -/
theorem searchLevels_spec (fuel : Nat) (levels : Levels) (queue : List Nat) (iterations : Nat)
    (ceiling : Int) (inv : LevelsInv net levels queue)
    (fuelled : unvisited levels + queue.length ≤ fuel)
    (bounded : ∀ node, levelOf levels node + fuel ≤ ceiling) :
    Closed net (searchLevels net fuel levels queue iterations).1 ∧
    (∀ node, 0 ≤ levelOf levels node →
      levelOf (searchLevels net fuel levels queue iterations).1 node = levelOf levels node) ∧
    (∀ node, levelOf (searchLevels net fuel levels queue iterations).1 node ≤ ceiling) ∧
    iterations ≤ (searchLevels net fuel levels queue iterations).2 ∧
    (queue ≠ [] → iterations < (searchLevels net fuel levels queue iterations).2) := by
  induction fuel generalizing levels queue iterations with
  | zero =>
      have empty : queue = [] := List.eq_nil_of_length_eq_zero (by omega)
      subst empty
      simp only [searchLevels]
      refine ⟨?_, fun _ _ => trivial, ?_, le_refl _, fun absurd_ => absurd rfl absurd_⟩
      · intro node visited
        exact (inv.explored node visited).resolve_left (by simp)
      · intro node
        have bound := bounded node
        omega
  | succ fuel ih =>
      cases queue with
      | nil =>
          simp only [searchLevels]
          refine ⟨?_, fun _ _ => trivial, ?_, le_refl _, fun absurd_ => absurd rfl absurd_⟩
          · intro node visited
            exact (inv.explored node visited).resolve_left (by simp)
          · intro node
            have bound := bounded node
            omega
      | cons node rest =>
          have depth : 0 ≤ levelOf levels node := inv.queued node List.mem_cons_self
          have step := visitEdges_spec (levelOf levels node) depth (net.edgesOf node) levels rest
            (by rw [inv.length]; exact inRange node)
          have stepped : LevelsInv net
              (visitEdges (levelOf levels node) (net.edgesOf node) levels rest).1
              (visitEdges (levelOf levels node) (net.edgesOf node) levels rest).2 := by
            constructor
            · rw [step.length, inv.length]
            · intro other member
              rcases step.marked other member with old | visited
              · have before := inv.queued other (List.mem_cons_of_mem _ old)
                rw [step.kept other before]
                exact before
              · exact visited
            · intro other visited
              rcases step.fresh other visited with before | queued
              · rcases inv.explored other before with waiting | scanned
                · rcases List.mem_cons.mp waiting with rfl | old
                  · exact Or.inr step.reached
                  · exact Or.inl (step.older other old)
                · right
                  intro edge member positive
                  have reached := scanned edge member positive
                  rw [step.kept _ reached]
                  exact reached
              · exact Or.inl queued
          have counted := step.counted
          rw [List.length_cons] at fuelled
          have run := ih _ _ (iterations + 1) stepped (by omega) (by
            intro other
            have growth := step.bounded other
            have bound := bounded other
            have nodeBound := bounded node
            omega)
          simp only [searchLevels]
          obtain ⟨closed, kept, bound, more, -⟩ := run
          refine ⟨closed, ?_, bound, by omega, fun _ => by omega⟩
          intro other visited
          have same := step.kept other visited
          rw [kept other (by omega), same]

include inRange in
/-- The levels the source computes: closed under edges with capacity, with the source
visited, and bounded by the number of nodes. -/
theorem buildLevels_spec (source : Nat) (iterations : Nat) (inside : source < net.length) :
    Closed net (buildLevels net source iterations).1 ∧
    levelOf (buildLevels net source iterations).1 source = 0 ∧
    (∀ node, levelOf (buildLevels net source iterations).1 node ≤ net.length + 1) ∧
    iterations < (buildLevels net source iterations).2 := by
  have sourceInside : source < (List.replicate net.length (-1 : Int)).length := by simpa using inside
  have blank : ∀ node, levelOf (List.replicate net.length (-1 : Int)) node = -1 := by
    intro node
    unfold levelOf
    rw [List.getD_eq_getElem?_getD, List.getElem?_replicate]
    split <;> rfl
  have start := levelOf_set sourceInside 0
  have inv : LevelsInv net ((List.replicate net.length (-1 : Int)).set source 0) [source] := by
    constructor
    · simp
    · intro node member
      rw [List.mem_singleton] at member
      rw [start, if_pos member]
    · intro node visited
      rw [start] at visited
      split at visited
      · rename_i same
        exact Or.inl (List.mem_singleton.mpr same)
      · rw [blank] at visited
        omega
  have count : unvisited ((List.replicate net.length (-1 : Int)).set source 0) + 1 =
      unvisited (List.replicate net.length (-1 : Int)) :=
    unvisited_set sourceInside (by rw [blank]; omega) (le_refl 0)
  have all : unvisited (List.replicate net.length (-1 : Int)) ≤ net.length := by
    have bound := List.countP_le_length (p := fun level : Int => decide (level < 0))
      (l := List.replicate net.length (-1 : Int))
    rw [List.length_replicate] at bound
    exact bound
  obtain ⟨closed, kept, bound, -, more⟩ := searchLevels_spec inRange (net.length + 1) _ [source]
    iterations (net.length + 1) inv (by rw [List.length_singleton]; omega) (by
      intro node
      rw [start]
      split
      · omega
      · rw [blank]
        omega)
  refine ⟨closed, ?_, bound, more (by simp)⟩
  have initial : levelOf ((List.replicate net.length (-1 : Int)).set source 0) source = 0 := by
    rw [start, if_pos rfl]
  exact (kept source (by omega)).trans initial

end Search

end FlowNetwork

end TrafficFabric
