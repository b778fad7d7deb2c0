import Mathlib.Algebra.BigOperators.Group.Finset.Basic
import Mathlib.Algebra.BigOperators.Group.Finset.Piecewise
import Mathlib.Algebra.Order.BigOperators.Group.List
import Mathlib.Algebra.Order.Ring.Int
import Mathlib.Data.Finset.Union

set_option autoImplicit false

/- Flows in a network that is given by its arcs, and the cuts that bound them. -/
namespace Flows

structure Arc (ν : Type) where
  source : ν
  target : ν
  capacity : Int

variable {ν : Type} [DecidableEq ν]

/-- What leaves a node less what enters it, given what is shipped along each arc. -/
def outflow (shipped : List (Arc ν × Int)) (node : ν) : Int :=
  (shipped.map fun entry => (if entry.1.source = node then entry.2 else 0) -
    (if entry.1.target = node then entry.2 else 0)).sum

structure IsFlow (arcs : List (Arc ν)) (source sink : ν) (shipped : List (Arc ν × Int)) : Prop where
  arcs : shipped.map Prod.fst = arcs
  within : ∀ entry ∈ shipped, 0 ≤ entry.2 ∧ entry.2 ≤ entry.1.capacity
  balanced : ∀ node, node ≠ source → node ≠ sink → outflow shipped node = 0

/-- The capacity of the arcs that leave a side. -/
def cutCapacity (side : ν → Bool) (arcs : List (Arc ν)) : Int :=
  (arcs.map fun arc => if side arc.source = true ∧ side arc.target = false then arc.capacity else 0).sum

/-- The value is shipped by some flow and exceeded by none. -/
structure IsMaximum (arcs : List (Arc ν)) (source sink : ν) (value : Int) : Prop where
  attained : ∃ shipped, IsFlow arcs source sink shipped ∧ outflow shipped source = value
  exceeded : ∀ shipped, IsFlow arcs source sink shipped → outflow shipped source ≤ value

/-- What is shipped between nodes of a set leaves none of it. -/
theorem sum_outflow (nodes : Finset ν) (shipped : List (Arc ν × Int)) :
    ∑ node ∈ nodes, outflow shipped node =
      (shipped.map fun entry => (if entry.1.source ∈ nodes then entry.2 else 0) -
        (if entry.1.target ∈ nodes then entry.2 else 0)).sum := by
  induction shipped with
  | nil => simp [outflow]
  | cons entry rest ih =>
      simp only [outflow, List.map_cons, List.sum_cons] at ih ⊢
      rw [Finset.sum_add_distrib, ih, Finset.sum_sub_distrib, Finset.sum_ite_eq, Finset.sum_ite_eq]

/-- A flow is no more than any cut between the source and the sink. -/
theorem IsFlow.le_cutCapacity {arcs : List (Arc ν)} {source sink : ν} {shipped : List (Arc ν × Int)}
    (flow : IsFlow arcs source sink shipped) {side : ν → Bool} (inside : side source = true)
    (outside : side sink = false) : outflow shipped source ≤ cutCapacity side arcs := by
  obtain ⟨nodes, held⟩ : ∃ nodes : Finset ν, ∀ node, node ∈ nodes ↔ side node = true ∧
      (node = source ∨ ∃ entry ∈ shipped, entry.1.source = node ∨ entry.1.target = node) := by
    refine ⟨(insert source (shipped.map (·.1.source) ++ shipped.map (·.1.target)).toFinset).filter
      (side · = true), ?_⟩
    intro node
    simp only [Finset.mem_filter, Finset.mem_insert, List.mem_toFinset, List.mem_append, List.mem_map]
    grind
  have value : outflow shipped source = ∑ node ∈ nodes, outflow shipped node := by
    refine (Finset.sum_eq_single_of_mem source ((held source).2 ⟨inside, Or.inl rfl⟩) ?_).symm
    intro node member apart
    refine flow.balanced node apart ?_
    rintro rfl
    rw [((held node).1 member).1] at outside
    cases outside
  rw [value, sum_outflow, ← flow.arcs, cutCapacity, List.map_map]
  apply List.sum_le_sum
  intro entry member
  have leaves : entry.1.source ∈ nodes ↔ side entry.1.source = true := by
    rw [held]
    exact and_iff_left (Or.inr ⟨entry, member, Or.inl rfl⟩)
  have enters : entry.1.target ∈ nodes ↔ side entry.1.target = true := by
    rw [held]
    exact and_iff_left (Or.inr ⟨entry, member, Or.inr rfl⟩)
  have within := flow.within entry member
  simp only [leaves, enters, Function.comp_apply]
  cases side entry.1.source <;> cases side entry.1.target <;> simp <;> omega

theorem IsFlow.isMaximum {arcs : List (Arc ν)} {source sink : ν} {shipped : List (Arc ν × Int)}
    (flow : IsFlow arcs source sink shipped) {side : ν → Bool} (inside : side source = true)
    (outside : side sink = false) (filled : outflow shipped source = cutCapacity side arcs) :
    IsMaximum arcs source sink (cutCapacity side arcs) :=
  ⟨⟨shipped, flow, filled⟩, fun _ other => other.le_cutCapacity inside outside⟩

end Flows
