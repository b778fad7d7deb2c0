import TrafficFabric.Lib.ResidualNetwork
import TrafficFabric.Lib.Flows

set_option autoImplicit false

/- Residual networks as flows: pushing keeps what the two edges of a pair hold together, so what a network
has lost since it was built is a flow along the arcs it was built of. -/
namespace TrafficFabric

namespace Adjacency

def capacityAt (net : Adjacency) (node index : Nat) :
    Int := ((net.edgeAt node index).map Edge.capacity).getD 0

theorem capacityAt_eq {net : Adjacency} {node index : Nat} {edge : Edge}
    (found : net.edgeAt node index = some edge) : net.capacityAt node index = edge.capacity := by
  unfold capacityAt
  rw [found]
  rfl

/-- The edges come in pairs between two different nodes, and each names the position of the other. -/
def Mutual (net : Adjacency) : Prop :=
  ∀ node index edge, net.edgeAt node index = some edge → node ≠ edge.target ∧
    ∃ back, net.edgeAt edge.target edge.reverse = some back ∧ back.target = node ∧ back.reverse = index

theorem Mutual.paired {net : Adjacency} (mutual_ : net.Mutual) : net.Paired := by
  intro node index edge found
  obtain ⟨-, back, partner, origin, -⟩ := mutual_ node index edge found
  exact ⟨back, partner, origin⟩

/-! Pushing. -/

/-- What a change of capacity leaves of an edge. -/
def ends (edge : Edge) : Nat × Nat := (edge.target, edge.reverse)

/-- The network with capacity moved between the edges of its pairs. -/
structure Residual (net residual : Adjacency) : Prop where
  length : residual.length = net.length
  shape : ∀ node, (residual.edgesOf node).map ends = (net.edgesOf node).map ends
  nonneg : residual.NonNegative
  kept : ∀ node index edge, net.edgeAt node index = some edge →
    residual.capacityAt node index + residual.capacityAt edge.target edge.reverse =
      net.capacityAt node index + net.capacityAt edge.target edge.reverse

theorem Residual.refl {net : Adjacency} (nonneg : net.NonNegative) : net.Residual net :=
  ⟨rfl, fun _ => rfl, nonneg, fun _ _ _ _ => rfl⟩

theorem Residual.edgeAt {net residual : Adjacency} (same : net.Residual residual) (node index : Nat) :
    (residual.edgeAt node index).map ends = (net.edgeAt node index).map ends := by
  have row := congrArg (fun entries => entries[index]?) (same.shape node)
  simp only [List.getElem?_map] at row
  exact row

theorem Residual.mutual_ {net residual : Adjacency} (same : net.Residual residual) (mutual_ : net.Mutual) :
    residual.Mutual := by
  intro node index edge found
  have shape := same.edgeAt node index
  rw [found, Option.map_some, eq_comm, Option.map_eq_some_iff] at shape
  obtain ⟨original, present, ends⟩ := shape
  obtain ⟨apart, back, partner, origin, position⟩ := mutual_ node index original present
  obtain ⟨target, reverse⟩ := Prod.mk.inj ends
  rw [target] at apart partner
  rw [reverse] at partner
  have other := same.edgeAt edge.target edge.reverse
  rw [partner, Option.map_some, Option.map_eq_some_iff] at other
  obtain ⟨current, held, back_ends⟩ := other
  obtain ⟨backTarget, backReverse⟩ := Prod.mk.inj back_ends
  exact ⟨apart, current, held, backTarget.trans origin, backReverse.trans position⟩

theorem capacityAt_addCapacity (net : Adjacency) (node index other position : Nat) (amount : Int)
    (present : net.edgeAt other position ≠ none) :
    (net.addCapacity node index amount).capacityAt other position =
      net.capacityAt other position + if node = other ∧ index = position then amount else 0 := by
  obtain ⟨edge, found⟩ := Option.ne_none_iff_exists'.1 present
  unfold capacityAt
  rw [edgeAt_addCapacity, found]
  split
  · rfl
  · exact (Int.add_zero _).symm

theorem ends_addCapacity (net : Adjacency) (node index other : Nat) (amount : Int) :
    ((net.addCapacity node index amount).edgesOf other).map ends = (net.edgesOf other).map ends := by
  rw [edgesOf_addCapacity]
  split
  · apply List.ext_getElem?
    intro position
    rw [List.getElem?_map, List.getElem?_modify, List.getElem?_map, Option.map_eq_map, Option.map_map]
    congr 1
    funext edge
    show ends (if index = position then changeCapacity amount edge else edge) = ends edge
    split <;> rfl
  · rfl

theorem edgeAt_ne_none_of_ends {net other : Adjacency} {node index : Nat}
    (same : (other.edgesOf node).map ends = (net.edgesOf node).map ends)
    (present : net.edgeAt node index ≠ none) :
    other.edgeAt node index ≠ none := by
  have length := congrArg List.length same
  rw [List.length_map, List.length_map] at length
  unfold edgeAt at present ⊢
  rw [ne_eq, List.getElem?_eq_none_iff] at present ⊢
  omega

/-- A push within the capacity of its edge keeps the sums of all pairs, its own and the others'. -/
theorem Residual.push {net residual : Adjacency} (same : net.Residual residual) (mutual_ : net.Mutual)
    {node index : Nat} {edge : Edge} {amount : Int} (found : residual.edgeAt node index = some edge)
    (nonneg : 0 ≤ amount) (most : amount ≤ edge.capacity) :
    net.Residual (residual.push node index edge amount) := by
  refine ⟨(length_push _ _ _ _ _).trans same.length, ?_, same.nonneg.push found nonneg most, ?_⟩
  · intro other
    unfold Adjacency.push
    rw [ends_addCapacity, ends_addCapacity, same.shape]
  intro other position first held
  have pairs := same.mutual_ mutual_
  obtain ⟨-, back, partner, -, -⟩ := mutual_ other position first held
  have kept := same.kept other position first held
  obtain ⟨-, edgeBack, edgePartner, edgeOrigin, edgePlace⟩ := pairs node index edge found
  -- The pair as it stands in the residual network.
  have current := same.edgeAt other position
  rw [held, Option.map_some, Option.map_eq_some_iff] at current
  obtain ⟨here, present, hereEnds⟩ := current
  obtain ⟨hereTarget, hereReverse⟩ := Prod.mk.inj hereEnds
  obtain ⟨-, there, thereAt, origin, place⟩ := pairs other position here present
  rw [hereTarget, hereReverse] at thereAt
  have forward : node = other ∧ index = position ↔ edge.target = first.target ∧
      edge.reverse = first.reverse := by
    constructor
    · rintro ⟨rfl, rfl⟩
      rw [found, Option.some.injEq] at present
      rw [present]
      exact ⟨hereTarget, hereReverse⟩
    · rintro ⟨atTarget, atReverse⟩
      rw [atTarget, atReverse, thereAt, Option.some.injEq] at edgePartner
      rw [← edgeOrigin, ← edgePlace, ← edgePartner]
      exact ⟨origin, place⟩
  have backward : node = first.target ∧ index = first.reverse ↔ edge.target = other ∧
      edge.reverse = position := by
    constructor
    · rintro ⟨atTarget, atReverse⟩
      rw [atTarget, atReverse, thereAt, Option.some.injEq] at found
      rw [← found]
      exact ⟨origin, place⟩
    · rintro ⟨atOther, atPosition⟩
      rw [atOther, atPosition, present, Option.some.injEq] at edgePartner
      rw [← edgeOrigin, ← edgePlace, ← edgePartner]
      exact ⟨hereTarget, hereReverse⟩
  have change (at_ where_ : Nat) (present : net.edgeAt at_ where_ ≠ none) :
      (residual.push node index edge amount).capacityAt at_ where_ = residual.capacityAt at_ where_ +
        (if node = at_ ∧ index = where_ then -amount else 0) +
        (if edge.target = at_ ∧ edge.reverse = where_ then amount else 0) := by
    have inResidual := edgeAt_ne_none_of_ends (same.shape at_) present
    have inTaken := edgeAt_ne_none_of_ends (ends_addCapacity residual node index at_ (-amount)) inResidual
    unfold Adjacency.push
    rw [capacityAt_addCapacity _ _ _ _ _ _ inTaken, capacityAt_addCapacity _ _ _ _ _ _ inResidual]
  rw [change other position (by rw [held]; exact Option.some_ne_none _),
    change first.target first.reverse (by rw [partner]; exact Option.some_ne_none _)]
  simp only [forward, backward]
  split_ifs <;> omega

/-! Networks built of arcs. -/

section AddEdge

variable {net : Adjacency} {source target : Nat} {capacity : Int} (sourceInside : source < net.length)
  (targetInside : target < net.length) (different : source ≠ target)

include sourceInside targetInside different

theorem edgeAt_addEdge (node index : Nat) : (net.addEdge source target capacity).edgeAt node index =
    if node = source ∧ index = (net.edgesOf source).length then
      some ⟨target, capacity, (net.edgesOf target).length⟩
    else if node = target ∧ index = (net.edgesOf target).length then
      some ⟨source, 0, (net.edgesOf source).length⟩
    else net.edgeAt node index := by
  have append (row : List Edge) (last : Edge) : (row ++ [last])[index]? =
      if index = row.length then some last else row[index]? := by
    rw [List.getElem?_append]
    split
    · rw [if_neg (by omega)]
    · split
      · simp_all
      · rw [List.getElem?_eq_none (by simp; omega), List.getElem?_eq_none (by omega)]
  unfold edgeAt
  rw [edgesOf_addEdge capacity sourceInside targetInside different]
  by_cases atTarget : node = target
  · subst atTarget
    simp [append, different.symm]
  · by_cases atSource : node = source
    · subst atSource
      simp [append, atTarget]
    · simp [atTarget, atSource]

/-- The edges that were there keep their positions. -/
theorem edgeAt_addEdge_of_some {node index : Nat} {edge : Edge}
    (found : net.edgeAt node index = some edge) :
    (net.addEdge source target capacity).edgeAt node index = some edge := by
  have inside : index < (net.edgesOf node).length := (List.getElem?_eq_some_iff.1 found).1
  have old (other : Nat) : ¬ (node = other ∧ index = (net.edgesOf other).length) := by
    rintro ⟨rfl, rfl⟩
    omega
  rw [edgeAt_addEdge sourceInside targetInside different, if_neg (old source), if_neg (old target), found]

theorem Mutual.addEdge (mutual_ : net.Mutual) : (net.addEdge source target capacity).Mutual := by
  have forward : (net.addEdge source target capacity).edgeAt source (net.edgesOf source).length =
      some ⟨target, capacity, (net.edgesOf target).length⟩ := by
    rw [edgeAt_addEdge sourceInside targetInside different, if_pos ⟨rfl, rfl⟩]
  have backward : (net.addEdge source target capacity).edgeAt target (net.edgesOf target).length =
      some ⟨source, 0, (net.edgesOf source).length⟩ := by
    rw [edgeAt_addEdge sourceInside targetInside different, if_neg (fun both => different both.1.symm),
      if_pos ⟨rfl, rfl⟩]
  intro node index edge found
  rw [edgeAt_addEdge sourceInside targetInside different] at found
  split at found
  · rename_i first
    obtain ⟨rfl, rfl⟩ := first
    cases found
    exact ⟨different, _, backward, rfl, rfl⟩
  · split at found
    · rename_i second
      obtain ⟨rfl, rfl⟩ := second
      cases found
      exact ⟨different.symm, _, forward, rfl, rfl⟩
    · obtain ⟨apart, back, partner, origin⟩ := mutual_ node index edge found
      exact ⟨apart, back, edgeAt_addEdge_of_some sourceInside targetInside different partner, origin⟩

end AddEdge

/-- The networks that come from adding nodes and arcs between different nodes. -/
inductive Built : Adjacency → List (Flows.Arc Nat) → Prop
  | nodes (count : Nat) : Built (List.replicate count []) []
  | node {net : Adjacency} {arcs : List (Flows.Arc Nat)} (built : Built net arcs) : Built net.addNode arcs
  | edge {net : Adjacency} {arcs : List (Flows.Arc Nat)} (built : Built net arcs) {source target : Nat}
      {capacity : Int} (sourceInside : source < net.length) (targetInside : target < net.length)
      (different : source ≠ target) (nonneg : 0 ≤ capacity) :
      Built (net.addEdge source target capacity) (arcs ++ [⟨source, target, capacity⟩])

theorem edgesOf_nodes (count node : Nat) : edgesOf (List.replicate count []) node = [] := by
  unfold edgesOf
  rw [List.getElem?_replicate]
  split <;> rfl

theorem Built.mutual_ {net : Adjacency} {arcs : List (Flows.Arc Nat)} (built : Built net arcs) :
    net.Mutual := by
  induction built with
  | nodes count =>
      intro node index edge found
      unfold edgeAt at found
      rw [edgesOf_nodes] at found
      cases found
  | node _ ih =>
      intro node index edge found
      simp only [edgeAt, edgesOf_addNode] at found ⊢
      exact ih node index edge found
  | edge _ sourceInside targetInside different _ ih => exact ih.addEdge sourceInside targetInside different

theorem Built.nonneg {net : Adjacency} {arcs : List (Flows.Arc Nat)} (built : Built net arcs) :
    net.NonNegative := by
  induction built with
  | nodes count =>
      intro node index edge found
      unfold edgeAt at found
      rw [edgesOf_nodes] at found
      cases found
  | node _ ih => exact ih.addNode
  | edge _ sourceInside targetInside different positive ih =>
      exact ih.addEdge sourceInside targetInside different positive

theorem Built.capacities {net : Adjacency} {arcs : List (Flows.Arc Nat)} (built : Built net arcs) :
    ∀ arc ∈ arcs, 0 ≤ arc.capacity := by
  induction built with
  | nodes count => exact fun _ member => absurd member List.not_mem_nil
  | node _ ih => exact ih
  | edge _ _ _ _ positive ih =>
      intro arc member
      rcases List.mem_append.1 member with before | last
      · exact ih arc before
      · rw [List.mem_singleton] at last
        rw [last]
        exact positive

/-- A cut of the network is the cut through its arcs. -/
theorem Built.cut_eq {net : Adjacency} {arcs : List (Flows.Arc Nat)} (built : Built net arcs)
    (side : Nat → Bool) : cut side net = Flows.cutCapacity side arcs := by
  induction built with
  | nodes count =>
      induction count with
      | zero => rfl
      | succ count ih =>
          rw [List.replicate_succ']
          exact (cut_addNode side _).trans ih
  | node _ ih => rw [cut_addNode, ih]
  | @edge net arcs _ source target capacity sourceInside targetInside different _ ih =>
      rw [cut_addEdge side capacity sourceInside targetInside different, ih, Flows.cutCapacity,
        Flows.cutCapacity, List.map_append, List.sum_append, List.map_singleton, List.sum_singleton]
      cases side source <;> cases side target <;> simp

/-! What has been taken from a network is a flow. -/

theorem length_edgesOf_addEdge {net : Adjacency} {source target : Nat} (capacity : Int)
    (sourceInside : source < net.length) (targetInside : target < net.length) (different : source ≠ target)
    (node : Nat) : ((net.addEdge source target capacity).edgesOf node).length = (net.edgesOf node).length +
      if node = source ∨ node = target then 1 else 0 := by
  rw [edgesOf_addEdge capacity sourceInside targetInside different]
  by_cases atTarget : node = target
  · subst atTarget
    simp
  · by_cases atSource : node = source
    · subst atSource
      simp [atTarget]
    · simp [atTarget, atSource]

/-- A gain along every edge that is lost along its reverse, and is never more than the capacity, ships an
amount along each arc. -/
theorem Built.shipped {net : Adjacency} {arcs : List (Flows.Arc Nat)} (built : Built net arcs)
    (gain : Nat → Nat → Int) (reversed : ∀ node index edge, net.edgeAt node index = some edge →
      gain edge.target edge.reverse = -gain node index)
    (most : ∀ node index edge, net.edgeAt node index = some edge → gain node index ≤ edge.capacity) :
    ∃ shipped : List (Flows.Arc Nat × Int), shipped.map Prod.fst = arcs ∧
      (∀ entry ∈ shipped, 0 ≤ entry.2 ∧ entry.2 ≤ entry.1.capacity) ∧
      ∀ node, Flows.outflow shipped node =
        ((List.range (net.edgesOf node).length).map (gain node)).sum := by
  induction built with
  | nodes count =>
      refine ⟨[], rfl, fun _ member => absurd member List.not_mem_nil, ?_⟩
      intro node
      rw [edgesOf_nodes]
      rfl
  | node _ ih =>
      simp only [edgeAt, edgesOf_addNode] at reversed most ⊢
      exact ih reversed most
  | @edge net arcs _ source target capacity sourceInside targetInside different nonneg ih =>
      have old {node index : Nat} {edge : Edge} (found : net.edgeAt node index = some edge) :
          (net.addEdge source target capacity).edgeAt node index = some edge :=
        edgeAt_addEdge_of_some sourceInside targetInside different found
      obtain ⟨shipped, arcs_eq, within, rows⟩ :=
        ih (fun node index edge found => reversed node index edge (old found))
        (fun node index edge found => most node index edge (old found))
      have forward : (net.addEdge source target capacity).edgeAt source (net.edgesOf source).length =
          some ⟨target, capacity, (net.edgesOf target).length⟩ := by
        rw [edgeAt_addEdge sourceInside targetInside different, if_pos ⟨rfl, rfl⟩]
      have backward : (net.addEdge source target capacity).edgeAt target (net.edgesOf target).length =
          some ⟨source, 0, (net.edgesOf source).length⟩ := by
        rw [edgeAt_addEdge sourceInside targetInside different, if_neg (fun both => different both.1.symm),
          if_pos ⟨rfl, rfl⟩]
      have opposite : gain target (net.edgesOf target).length = -gain source (net.edgesOf source).length :=
        reversed _ _ _ forward
      have up : gain source (net.edgesOf source).length ≤ capacity := most _ _ _ forward
      have down : gain target (net.edgesOf target).length ≤ 0 := most _ _ _ backward
      refine ⟨shipped ++
        [(⟨source, target, capacity⟩, gain source (net.edgesOf source).length)], ?_, ?_, ?_⟩
      · rw [List.map_append, arcs_eq]
        rfl
      · intro entry member
        rcases List.mem_append.1 member with before | last
        · exact within entry before
        · rw [List.mem_singleton] at last
          rw [last]
          exact ⟨by omega, up⟩
      · intro node
        have grown : Flows.outflow (shipped ++ [(⟨source, target, capacity⟩,
            gain source (net.edgesOf source).length)]) node = Flows.outflow shipped node +
            ((if source = node then gain source (net.edgesOf source).length else 0) -
              if target = node then gain source (net.edgesOf source).length else 0) := by
          unfold Flows.outflow
          rw [List.map_append, List.sum_append, List.map_singleton, List.sum_singleton]
        rw [grown, rows node, length_edgesOf_addEdge capacity sourceInside targetInside different]
        by_cases atSource : source = node
        · subst atSource
          rw [if_pos rfl, if_neg (Ne.symm different), if_pos (Or.inl rfl), List.range_succ, List.map_append,
            List.sum_append, List.map_singleton, List.sum_singleton]
          omega
        · by_cases atTarget : target = node
          · subst atTarget
            rw [if_neg atSource, if_pos rfl, if_pos (Or.inr rfl), List.range_succ, List.map_append,
              List.sum_append, List.map_singleton, List.sum_singleton]
            omega
          · rw [if_neg atSource, if_neg atTarget, if_neg (by omega)]
            simp

/-- What leaves a single node. -/
theorem cut_single (net : Adjacency) (mutual_ : net.Mutual) (node : Nat) :
    cut (fun other => decide (other = node)) net =
      ((List.range (net.edgesOf node).length).map (net.capacityAt node)).sum := by
  have row : (List.range (net.edgesOf node).length).map (net.capacityAt node) =
      (net.edgesOf node).map Edge.capacity := by
    apply List.ext_getElem
    · simp
    · intro index _ inside
      rw [List.length_map] at inside
      simp [capacityAt, edgeAt, inside]
  have leaves : rowCut (fun other => decide (other = node)) (net.edgesOf node) =
      ((net.edgesOf node).map Edge.capacity).sum := by
    unfold rowCut
    congr 1
    apply List.map_congr_left
    intro edge member
    obtain ⟨index, found⟩ := List.mem_iff_getElem?.1 member
    have apart := (mutual_ node index edge found).1
    simp [apart.symm]
  have position (rows : Adjacency) (offset : Nat) :
    cutFrom (fun other => decide (other = node)) offset rows =
      if offset ≤ node then rowCut (fun other => decide (other = node)) (rows.edgesOf (node - offset))
        else 0 := by
    induction rows generalizing offset with
    | nil => simp [cutFrom, rowCut, edgesOf]
    | cons first rest ih =>
        rw [cutFrom, ih]
        by_cases here : offset = node
        · subst here
          simp [edgesOf]
        · have outside : ¬ decide (offset = node) = true := by simpa using here
          rw [if_neg outside, Int.zero_add]
          by_cases before : offset ≤ node
          · obtain ⟨later, rfl⟩ : ∃ later, node = offset + 1 + later := ⟨node - offset - 1, by omega⟩
            rw [if_pos before, if_pos (by omega), show offset + 1 + later - (offset + 1) = later by omega,
              show offset + 1 + later - offset = later + 1 by omega]
            simp [edgesOf]
          · rw [if_neg before, if_neg (by omega)]
  rw [row, ← leaves]
  exact (position net 0).trans (if_pos (Nat.zero_le node))

/-- How much more than before goes out of a set with the source, or into one with the sink. -/
def Moved (source sink : Nat) (net residual : Adjacency) (amount : Int) : Prop :=
  ∀ side : Nat → Bool, cut side residual =
    cut side net - (if side source then amount else 0) + (if side sink then amount else 0)

/-- What a residual network has lost is a flow of the amount that was moved from the source to the sink. -/
theorem Residual.flow {net residual : Adjacency} {arcs : List (Flows.Arc Nat)} (built : Built net arcs)
    (same : net.Residual residual) {source sink : Nat} (different : source ≠ sink) {amount : Int}
    (moved : Moved source sink net residual amount) :
    ∃ shipped, Flows.IsFlow arcs source sink shipped ∧ Flows.outflow shipped source = amount := by
  have mutual_ := built.mutual_
  obtain ⟨shipped, arcs_eq, within, rows⟩ := built.shipped
    (fun node index => net.capacityAt node index - residual.capacityAt node index)
    (by
      intro node index edge found
      have kept := same.kept node index edge found
      omega)
    (by
      intro node index edge found
      have rest : 0 ≤ residual.capacityAt node index := by
        unfold capacityAt
        cases left : residual.edgeAt node index with
        | none => exact le_refl 0
        | some current => exact same.nonneg node index current left
      rw [capacityAt_eq found]
      omega)
  have outflow (node : Nat) : Flows.outflow shipped node =
      (if source = node then amount else 0) - if sink = node then amount else 0 := by
    have change := moved fun other => decide (other = node)
    have lengths : (residual.edgesOf node).length = (net.edgesOf node).length := by
      have equal := congrArg List.length (same.shape node)
      rwa [List.length_map, List.length_map] at equal
    rw [cut_single net mutual_, cut_single residual (same.mutual_ mutual_), lengths] at change
    simp only [decide_eq_true_eq] at change
    have parts : ((List.range (net.edgesOf node).length).map fun index =>
          net.capacityAt node index - residual.capacityAt node index).sum +
        ((List.range (net.edgesOf node).length).map (residual.capacityAt node)).sum =
        ((List.range (net.edgesOf node).length).map (net.capacityAt node)).sum := by
      rw [← List.sum_map_add]
      simp
    rw [rows node]
    omega
  refine ⟨shipped, ⟨arcs_eq, within, ?_⟩, ?_⟩
  · intro node apartSource apartSink
    rw [outflow, if_neg (Ne.symm apartSource), if_neg (Ne.symm apartSink), Int.sub_self]
  · rw [outflow, if_pos rfl, if_neg (Ne.symm different), Int.sub_zero]

end Adjacency

end TrafficFabric
