import Mathlib.Algebra.BigOperators.Group.List.Basic
import Mathlib.Algebra.Order.Group.Int
import TrafficFabric.Lib.Sums

set_option autoImplicit false

/- Residual networks as adjacency lists with paired edges. The capacity that leaves a
set of nodes is what pushing flow changes in a predictable way, whatever path the flow
takes; a search that finds no way out therefore proves a lower bound on the flow. -/
namespace TrafficFabric

structure Edge where
  target : Nat
  capacity : Int
  reverse : Nat
deriving DecidableEq, Inhabited

abbrev Adjacency := List (List Edge)

namespace Adjacency

def edgesOf (net : Adjacency) (node : Nat) : List Edge := net[node]?.getD []

def edgeAt (net : Adjacency) (node index : Nat) : Option Edge := (net.edgesOf node)[index]?

def addNode (net : Adjacency) : Adjacency := net ++ [[]]

/-- A forward edge and its reverse, each holding the position of the other. -/
def addEdge (net : Adjacency) (source target : Nat) (capacity : Int) : Adjacency :=
  let forward : Edge := ⟨target, capacity, (net.edgesOf target).length⟩
  let backward : Edge := ⟨source, 0, (net.edgesOf source).length⟩
  (net.modify source (fun edges => edges ++ [forward])).modify target
    (fun edges => edges ++ [backward])

def changeCapacity (amount : Int) (edge : Edge) : Edge :=
  { edge with capacity := edge.capacity + amount }

def addCapacity (net : Adjacency) (node index : Nat) (amount : Int) : Adjacency :=
  net.modify node (fun edges => edges.modify index (changeCapacity amount))

/-- Moving flow along an edge takes capacity from it and gives it to its reverse. -/
def push (net : Adjacency) (node index : Nat) (edge : Edge) (amount : Int) : Adjacency :=
  (net.addCapacity node index (-amount)).addCapacity edge.target edge.reverse amount

/-- Every edge's reverse position holds an edge back to its origin. -/
def Paired (net : Adjacency) : Prop :=
  ∀ node index edge, net.edgeAt node index = some edge →
    ∃ back, net.edgeAt edge.target edge.reverse = some back ∧ back.target = node

/-! Reading a changed network. -/

theorem lt_length_of_edgeAt {net : Adjacency} {node index : Nat} {edge : Edge}
    (found : net.edgeAt node index = some edge) : node < net.length := by
  by_contra outside
  have absent : net[node]? = none := List.getElem?_eq_none (by omega)
  simp [edgeAt, edgesOf, absent] at found

theorem Paired.target_lt {net : Adjacency} (paired : net.Paired) {node index : Nat} {edge : Edge}
    (found : net.edgeAt node index = some edge) : edge.target < net.length := by
  obtain ⟨back, present, -⟩ := paired node index edge found
  exact lt_length_of_edgeAt present

@[simp] theorem length_addCapacity (net : Adjacency) (node index : Nat) (amount : Int) :
    (net.addCapacity node index amount).length = net.length := by
  simp [addCapacity]

@[simp] theorem length_push (net : Adjacency) (node index : Nat) (edge : Edge) (amount : Int) :
    (net.push node index edge amount).length = net.length := by
  simp [push]

theorem edgesOf_addCapacity (net : Adjacency) (node index other : Nat) (amount : Int) :
    (net.addCapacity node index amount).edgesOf other =
      if node = other then (net.edgesOf other).modify index (changeCapacity amount)
      else net.edgesOf other := by
  unfold edgesOf addCapacity
  rw [List.getElem?_modify]
  by_cases same : node = other
  · cases net[other]? with
    | none => simp [same]
    | some edges => simp [same]
  · simp [same]

theorem edgeAt_addCapacity (net : Adjacency) (node index other position : Nat) (amount : Int) :
    (net.addCapacity node index amount).edgeAt other position =
      if node = other ∧ index = position then
        (net.edgeAt other position).map (changeCapacity amount)
      else net.edgeAt other position := by
  unfold edgeAt
  rw [edgesOf_addCapacity]
  by_cases same : node = other
  · rw [if_pos same, List.getElem?_modify]
    by_cases here : index = position
    · simp [same, here]
    · simp [here]
  · simp [same]

@[simp] theorem length_edgesOf_addCapacity (net : Adjacency) (node index other : Nat)
    (amount : Int) :
    ((net.addCapacity node index amount).edgesOf other).length = (net.edgesOf other).length := by
  rw [edgesOf_addCapacity]
  split <;> simp

@[simp] theorem length_edgesOf_push (net : Adjacency) (node index other : Nat) (edge : Edge)
    (amount : Int) :
    ((net.push node index edge amount).edgesOf other).length = (net.edgesOf other).length := by
  simp [push]

/-- A change of capacity keeps the end points and the pairing. -/
theorem Paired.addCapacity {net : Adjacency} (paired : net.Paired) (node index : Nat)
    (amount : Int) : (net.addCapacity node index amount).Paired := by
  intro other position edge found
  have original : ∃ old, net.edgeAt other position = some old ∧ old.target = edge.target ∧
      old.reverse = edge.reverse := by
    rw [edgeAt_addCapacity] at found
    split at found
    · obtain ⟨old, present, rfl⟩ := Option.map_eq_some_iff.mp found
      exact ⟨old, present, rfl, rfl⟩
    · exact ⟨edge, found, rfl, rfl⟩
  obtain ⟨old, present, sameTo, sameReverse⟩ := original
  obtain ⟨back, partner, origin⟩ := paired other position old present
  rw [sameTo, sameReverse] at partner
  rw [edgeAt_addCapacity, partner]
  split
  · exact ⟨changeCapacity amount back, rfl, origin⟩
  · exact ⟨back, rfl, origin⟩

theorem Paired.push {net : Adjacency} (paired : net.Paired) (node index : Nat) (edge : Edge)
    (amount : Int) : (net.push node index edge amount).Paired :=
  (paired.addCapacity node index (-amount)).addCapacity edge.target edge.reverse amount

theorem edgesOf_addNode (net : Adjacency) (node : Nat) :
    net.addNode.edgesOf node = net.edgesOf node := by
  unfold edgesOf addNode
  by_cases inside : node < net.length
  · rw [List.getElem?_append_left inside]
  · rw [List.getElem?_append_right (by omega), List.getElem?_eq_none (l := net) (by omega)]
    cases (node - net.length) with
    | zero => rfl
    | succ later => rfl

theorem Paired.addNode {net : Adjacency} (paired : net.Paired) : net.addNode.Paired := by
  intro node index edge found
  simp only [edgeAt, edgesOf_addNode] at found ⊢
  exact paired node index edge found

theorem length_addEdge (net : Adjacency) (source target : Nat) (capacity : Int) :
    (net.addEdge source target capacity).length = net.length := by
  simp [addEdge]

theorem edgesOf_addEdge {net : Adjacency} {source target : Nat} (capacity : Int)
    (sourceInside : source < net.length) (targetInside : target < net.length)
    (different : source ≠ target) (node : Nat) :
    (net.addEdge source target capacity).edgesOf node =
      if node = target then net.edgesOf target ++ [⟨source, 0, (net.edgesOf source).length⟩]
      else if node = source then
        net.edgesOf source ++ [⟨target, capacity, (net.edgesOf target).length⟩]
      else net.edgesOf node := by
  unfold addEdge edgesOf
  dsimp only
  rw [List.getElem?_modify, List.getElem?_modify]
  by_cases atTarget : node = target
  · subst atTarget
    simp [different, List.getElem?_eq_getElem targetInside]
  · by_cases atSource : node = source
    · subst atSource
      simp [atTarget, Ne.symm atTarget, List.getElem?_eq_getElem sourceInside]
    · simp [atTarget, Ne.symm atTarget, atSource, Ne.symm atSource]

theorem Paired.addEdge {net : Adjacency} (paired : net.Paired) {source target : Nat}
    (capacity : Int) (sourceInside : source < net.length) (targetInside : target < net.length)
    (different : source ≠ target) : (net.addEdge source target capacity).Paired := by
  have edges := edgesOf_addEdge capacity sourceInside targetInside different
  -- Every old edge keeps its position, because rows only grow at their end.
  have kept : ∀ node index edge, net.edgeAt node index = some edge →
      (net.addEdge source target capacity).edgeAt node index = some edge := by
    intro node index edge found
    have inside : index < (net.edgesOf node).length := (List.getElem?_eq_some_iff.mp found).1
    unfold edgeAt at found ⊢
    rw [edges]
    split
    · rename_i same
      subst same
      rw [List.getElem?_append_left inside, found]
    · split
      · rename_i same
        subst same
        rw [List.getElem?_append_left inside, found]
      · exact found
  have forward : (net.addEdge source target capacity).edgeAt source (net.edgesOf source).length =
      some ⟨target, capacity, (net.edgesOf target).length⟩ := by
    unfold edgeAt
    rw [edges, if_neg different, if_pos rfl]
    simp
  have backward : (net.addEdge source target capacity).edgeAt target (net.edgesOf target).length =
      some ⟨source, 0, (net.edgesOf source).length⟩ := by
    unfold edgeAt
    rw [edges, if_pos rfl]
    simp
  intro node index edge found
  by_cases old : index < (net.edgesOf node).length
  · obtain ⟨same⟩ : (net.edgeAt node index = some edge) ∧ True := by
      have present : net.edgeAt node index = some ((net.edgesOf node).get ⟨index, old⟩) :=
        List.getElem?_eq_getElem old
      rw [kept node index _ present] at found
      exact ⟨present.trans found, trivial⟩
    obtain ⟨back, partner, origin⟩ := paired node index edge same
    exact ⟨back, kept _ _ _ partner, origin⟩
  · have row := found
    unfold edgeAt at row
    rw [edges] at row
    split at row
    · rename_i same
      subst same
      rw [List.getElem?_append_right (by omega)] at row
      obtain ⟨zero, shape⟩ := List.getElem?_eq_some_iff.mp row
      simp only [List.length_cons, List.length_nil] at zero
      have start : index - (net.edgesOf node).length = 0 := by omega
      simp only [start, List.getElem_cons_zero] at shape
      subst shape
      exact ⟨_, forward, rfl⟩
    · split at row
      · rename_i same
        subst same
        rw [List.getElem?_append_right (by omega)] at row
        obtain ⟨zero, shape⟩ := List.getElem?_eq_some_iff.mp row
        simp only [List.length_cons, List.length_nil] at zero
        have start : index - (net.edgesOf node).length = 0 := by omega
        simp only [start, List.getElem_cons_zero] at shape
        subst shape
        exact ⟨_, backward, rfl⟩
      · have inside := (List.getElem?_eq_some_iff.mp row).1
        omega

/-! The capacity of a cut. -/

def rowCut (side : Nat → Bool) (edges : List Edge) : Int :=
  (edges.map fun edge => if side edge.target then 0 else edge.capacity).sum

def cutFrom (side : Nat → Bool) : Nat → Adjacency → Int
  | _, [] => 0
  | node, edges :: rest =>
      (if side node then rowCut side edges else 0) + cutFrom side (node + 1) rest

/-- Total capacity of the edges that leave the side. -/
def cut (side : Nat → Bool) (net : Adjacency) : Int := cutFrom side 0 net

theorem rowCut_modify (side : Nat → Bool) (edges : List Edge) (index : Nat) (edge : Edge)
    (amount : Int) (found : edges[index]? = some edge) :
    rowCut side (edges.modify index (changeCapacity amount)) =
      rowCut side edges + if side edge.target then 0 else amount := by
  induction edges generalizing index with
  | nil => simp at found
  | cons first rest ih =>
      cases index with
      | zero =>
          rw [List.getElem?_cons_zero, Option.some.injEq] at found
          subst found
          rw [List.modify_zero_cons]
          simp only [rowCut, List.map_cons, List.sum_cons, changeCapacity]
          split <;> omega
      | succ index =>
          rw [List.getElem?_cons_succ] at found
          have later := ih index found
          rw [List.modify_succ_cons]
          simp only [rowCut, List.map_cons, List.sum_cons] at later ⊢
          omega

theorem cutFrom_modify (side : Nat → Bool) (net : Adjacency) (offset node : Nat)
    (edges : List Edge) (update : List Edge → List Edge) (found : net[node]? = some edges) :
    cutFrom side offset (net.modify node update) = cutFrom side offset net +
      if side (offset + node) then rowCut side (update edges) - rowCut side edges else 0 := by
  induction net generalizing offset node with
  | nil => simp at found
  | cons first rest ih =>
      cases node with
      | zero =>
          rw [List.getElem?_cons_zero, Option.some.injEq] at found
          subst found
          rw [List.modify_zero_cons]
          simp only [cutFrom, Nat.add_zero]
          split <;> omega
      | succ node =>
          rw [List.getElem?_cons_succ] at found
          have later := ih (offset + 1) node found
          have position : offset + 1 + node = offset + (node + 1) := by omega
          rw [List.modify_succ_cons]
          simp only [cutFrom]
          rw [later, position]
          omega

theorem cut_addCapacity (side : Nat → Bool) (net : Adjacency) (node index : Nat) (edge : Edge)
    (amount : Int) (found : net.edgeAt node index = some edge) :
    cut side (net.addCapacity node index amount) = cut side net +
      if side node then if side edge.target then 0 else amount else 0 := by
  have inside := lt_length_of_edgeAt found
  have row : net[node]? = some (net.edgesOf node) := by
    simp [edgesOf, List.getElem?_eq_getElem inside]
  unfold cut addCapacity
  rw [cutFrom_modify side net 0 node (net.edgesOf node) _ row,
    rowCut_modify side (net.edgesOf node) index edge amount found, Nat.zero_add]
  split <;> omega

/-- Pushing flow lowers the capacity that leaves the side by what leaves it, and raises
it by what comes back. -/
theorem cut_push (side : Nat → Bool) {net : Adjacency} (paired : net.Paired) {node index : Nat}
    {edge : Edge} (amount : Int) (found : net.edgeAt node index = some edge) :
    cut side (net.push node index edge amount) = cut side net -
      (if side node then amount else 0) + (if side edge.target then amount else 0) := by
  obtain ⟨back, partner, origin⟩ := paired node index edge found
  have moved : ∃ changed, (net.addCapacity node index (-amount)).edgeAt edge.target edge.reverse =
      some changed ∧ changed.target = node := by
    rw [edgeAt_addCapacity, partner]
    split
    · exact ⟨changeCapacity (-amount) back, rfl, origin⟩
    · exact ⟨back, rfl, origin⟩
  obtain ⟨changed, present, backTo⟩ := moved
  unfold push
  rw [cut_addCapacity side _ edge.target edge.reverse changed amount present, backTo,
    cut_addCapacity side net node index edge (-amount) found]
  by_cases leaves : side node = true
  · by_cases enters : side edge.target = true
    · simp only [leaves, enters, ↓reduceIte]
      omega
    · simp only [leaves, enters, ↓reduceIte, Bool.false_eq_true]
      omega
  · by_cases enters : side edge.target = true
    · simp only [leaves, enters, ↓reduceIte, Bool.false_eq_true]
      omega
    · simp only [leaves, enters, ↓reduceIte, Bool.false_eq_true]
      omega

theorem cutFrom_addNode (side : Nat → Bool) (net : Adjacency) (offset : Nat) :
    cutFrom side offset (net ++ [[]]) = cutFrom side offset net := by
  induction net generalizing offset with
  | nil => simp [cutFrom, rowCut]
  | cons first rest ih => simp only [List.cons_append, cutFrom, ih]

@[simp] theorem cut_addNode (side : Nat → Bool) (net : Adjacency) :
    cut side net.addNode = cut side net := cutFrom_addNode side net 0

/-- A new edge adds its capacity to exactly the cuts it crosses. -/
theorem cut_addEdge (side : Nat → Bool) {net : Adjacency} {source target : Nat} (capacity : Int)
    (sourceInside : source < net.length) (targetInside : target < net.length)
    (different : source ≠ target) :
    cut side (net.addEdge source target capacity) = cut side net +
      if side source then if side target then 0 else capacity else 0 := by
  have sourceRow : net[source]? = some (net.edgesOf source) := by
    simp [edgesOf, List.getElem?_eq_getElem sourceInside]
  have targetRow : (net.modify source (fun edges => edges ++
      [⟨target, capacity, (net.edgesOf target).length⟩]))[target]? = some (net.edgesOf target) := by
    rw [List.getElem?_modify]
    simp [different, edgesOf, List.getElem?_eq_getElem targetInside]
  have grown : ∀ (edges : List Edge) (edge : Edge), rowCut side (edges ++ [edge]) =
      rowCut side edges + if side edge.target then 0 else edge.capacity := by
    intro edges edge
    simp [rowCut]
  unfold cut addEdge
  dsimp only
  rw [cutFrom_modify side _ 0 target _ _ targetRow, cutFrom_modify side net 0 source _ _ sourceRow,
    grown, grown]
  simp only [Nat.zero_add]
  by_cases fromSide : side source = true
  · by_cases intoSide : side target = true
    · simp [fromSide, intoSide]
    · simp [fromSide, intoSide]
  · by_cases intoSide : side target = true
    · simp [fromSide, intoSide]
    · simp [fromSide, intoSide]

theorem rowCut_nonpos (side : Nat → Bool) (edges : List Edge)
    (exhausted : ∀ edge ∈ edges, ¬ side edge.target = true → edge.capacity ≤ 0) :
    rowCut side edges ≤ 0 := by
  induction edges with
  | nil => simp [rowCut]
  | cons first rest ih =>
      obtain ⟨here, later⟩ := List.forall_mem_cons.mp exhausted
      have tail := ih later
      simp only [rowCut, List.map_cons, List.sum_cons] at tail ⊢
      split
      · omega
      · rename_i leaves
        have small := here leaves
        omega

/-- A side no edge with capacity leaves has no cut capacity left. -/
theorem cut_nonpos_of_closed (side : Nat → Bool) (net : Adjacency)
    (closed : ∀ node index edge, net.edgeAt node index = some edge → side node = true →
      0 < edge.capacity → side edge.target = true) : cut side net ≤ 0 := by
  have general : ∀ (rows : Adjacency) (offset : Nat),
      (∀ node edges, rows[node]? = some edges → side (offset + node) = true →
        ∀ edge ∈ edges, 0 < edge.capacity → side edge.target = true) →
      cutFrom side offset rows ≤ 0 := by
    intro rows
    induction rows with
    | nil => intro offset _; simp [cutFrom]
    | cons first rest ih =>
        intro offset rowsClosed
        have later := ih (offset + 1) (by
          intro node edges found inside edge member positive
          have position : offset + 1 + node = offset + (node + 1) := by omega
          rw [position] at inside
          exact rowsClosed (node + 1) edges (by simpa using found) inside edge member positive)
        simp only [cutFrom]
        by_cases inside : side offset = true
        · have row : rowCut side first ≤ 0 := by
            apply rowCut_nonpos
            intro edge member leaves
            have small : ¬ 0 < edge.capacity := fun positive =>
              leaves (rowsClosed 0 first (by simp) (by simpa using inside) edge member positive)
            omega
          rw [if_pos inside]
          omega
        · rw [if_neg inside]
          omega
  apply general net 0
  intro node edges found inside edge member positive
  obtain ⟨index, present⟩ := List.mem_iff_getElem?.mp member
  have row : net.edgeAt node index = some edge := by simp [edgeAt, edgesOf, found, present]
  exact closed node index edge row (by simpa using inside) positive

/-! Capacities that never run below zero. -/

def NonNegative (net : Adjacency) : Prop :=
  ∀ node index edge, net.edgeAt node index = some edge → 0 ≤ edge.capacity

theorem NonNegative.addCapacity {net : Adjacency} (nonneg : net.NonNegative) {node index : Nat}
    {amount : Int} (enough : ∀ edge, net.edgeAt node index = some edge → 0 ≤ edge.capacity + amount) :
    (net.addCapacity node index amount).NonNegative := by
  intro other position edge found
  rw [edgeAt_addCapacity] at found
  split at found
  · rename_i same
    obtain ⟨rfl, rfl⟩ := same
    obtain ⟨old, present, rfl⟩ := Option.map_eq_some_iff.mp found
    exact enough old present
  · exact nonneg other position edge found

/-- What is pushed along an edge is no more than its capacity. -/
theorem NonNegative.push {net : Adjacency} (nonneg : net.NonNegative) {node index : Nat} {edge : Edge}
    {amount : Int} (found : net.edgeAt node index = some edge) (positive : 0 ≤ amount)
    (most : amount ≤ edge.capacity) : (net.push node index edge amount).NonNegative := by
  have taken : (net.addCapacity node index (-amount)).NonNegative := by
    apply nonneg.addCapacity
    intro other present
    rw [found, Option.some.injEq] at present
    subst present
    omega
  apply taken.addCapacity
  intro back present
  have capacity := taken _ _ _ present
  omega

theorem NonNegative.addEdge {net : Adjacency} (nonneg : net.NonNegative)
    {source target : Nat} {capacity : Int}
    (sourceInside : source < net.length) (targetInside : target < net.length) (different : source ≠ target)
    (positive : 0 ≤ capacity) : (net.addEdge source target capacity).NonNegative := by
  -- An edge of a row that grew by one is an old edge or the new one.
  have grown : ∀ (edges : List Edge) (last : Edge), (∀ (index : Nat) edge, edges[index]? = some edge →
      0 ≤ edge.capacity) → 0 ≤ last.capacity → ∀ (index : Nat) edge, (edges ++ [last])[index]? = some edge →
      0 ≤ edge.capacity := by
    intro edges last old new index edge found
    have member := List.mem_of_getElem? found
    rcases List.mem_append.mp member with before | added
    · obtain ⟨position, present⟩ := List.mem_iff_getElem?.mp before
      exact old position edge present
    · rw [List.mem_singleton] at added
      rw [added]
      exact new
  intro node index edge found
  unfold edgeAt at found
  rw [edgesOf_addEdge capacity sourceInside targetInside different] at found
  split at found
  · exact grown _ _ (nonneg target) (le_refl 0) index edge found
  · split at found
    · exact grown _ _ (nonneg source) positive index edge found
    · exact nonneg node index edge found

theorem NonNegative.addNode {net : Adjacency} (nonneg : net.NonNegative) : net.addNode.NonNegative := by
  intro node index edge found
  simp only [edgeAt, edgesOf_addNode] at found
  exact nonneg node index edge found

theorem rowCut_nonneg (side : Nat → Bool) (edges : List Edge) (nonneg : ∀ edge ∈ edges, 0 ≤ edge.capacity) :
    0 ≤ rowCut side edges := by
  apply sum_map_nonneg
  intro edge member
  have capacity := nonneg edge member
  split <;> omega

theorem NonNegative.cut {net : Adjacency} (nonneg : net.NonNegative) (side : Nat → Bool) :
    0 ≤ cut side net := by
  have general : ∀ (rows : Adjacency) (offset : Nat), (∀ edges ∈ rows, ∀ edge ∈ edges, 0 ≤ edge.capacity) →
      0 ≤ cutFrom side offset rows := by
    intro rows
    induction rows with
    | nil => intro offset _; simp [cutFrom]
    | cons first rest ih =>
        intro offset rowsNonneg
        obtain ⟨here, later⟩ := List.forall_mem_cons.mp rowsNonneg
        have tail := ih (offset + 1) later
        have row := rowCut_nonneg side first here
        simp only [cutFrom]
        split <;> omega
  apply general net 0
  intro edges row edge member
  obtain ⟨node, present⟩ := List.mem_iff_getElem?.mp row
  obtain ⟨index, found⟩ := List.mem_iff_getElem?.mp member
  apply nonneg node index edge
  simp [edgeAt, edgesOf, present, found]

end Adjacency

end TrafficFabric
