import Mathlib.Algebra.BigOperators.Group.Multiset.Basic
import Mathlib.Algebra.Order.BigOperators.Group.List
import Mathlib.Algebra.Order.Ring.Int

set_option autoImplicit false

/- Sums of integer measures over lists: the inequalities and exchanges that accounting
arguments come down to. Then the largest and the smallest of a list. -/
namespace TrafficFabric

variable {α β : Type}

theorem sum_map_nonneg (measure : α → Int) (items : List α)
    (nonneg : ∀ item ∈ items, 0 ≤ measure item) : 0 ≤ (items.map measure).sum := by
  apply List.sum_nonneg
  intro amount member
  obtain ⟨item, inside, rfl⟩ := List.mem_map.mp member
  exact nonneg item inside

theorem le_sum_map (measure : α → Int) (items : List α)
    (nonneg : ∀ item ∈ items, 0 ≤ measure item) (item : α) (member : item ∈ items) :
    measure item ≤ (items.map measure).sum := by
  induction items with
  | nil => cases member
  | cons first rest ih =>
      obtain ⟨firstNonneg, later⟩ := List.forall_mem_cons.mp nonneg
      have total := sum_map_nonneg measure rest later
      rw [List.map_cons, List.sum_cons]
      rcases List.mem_cons.mp member with rfl | inside
      · omega
      · have below := ih later inside
        omega

theorem sum_map_filter (measure : α → Int) (keep : α → Bool) (items : List α) :
    ((items.filter keep).map measure).sum =
      (items.map fun item => if keep item then measure item else 0).sum := by
  induction items with
  | nil => rfl
  | cons item rest ih =>
      by_cases kept : keep item = true
      · simp [kept, ih]
      · simp [kept, ih]

/-- Order of summation. -/
theorem sum_map_comm (measure : α → β → Int) (left : List α) (right : List β) :
    (left.map fun first => (right.map (measure first)).sum).sum =
      (right.map fun second => (left.map fun first => measure first second).sum).sum := by
  have exchange := Multiset.sum_map_sum_map (left : Multiset α) (right : Multiset β)
    (f := measure)
  simpa using exchange

theorem sum_map_eq_zero (measure : α → Int) (items : List α)
    (zero : ∀ item ∈ items, measure item = 0) : (items.map measure).sum = 0 := by
  induction items with
  | nil => rfl
  | cons first rest ih =>
      obtain ⟨firstZero, later⟩ := List.forall_mem_cons.mp zero
      rw [List.map_cons, List.sum_cons, firstZero, ih later, Int.zero_add]

/-- A sum of amounts that are not negative is zero only where all of them are. -/
theorem sum_map_eq_zero_iff {measure : α → Int} {items : List α}
    (nonneg : ∀ item ∈ items, 0 ≤ measure item) :
    (items.map measure).sum = 0 ↔ ∀ item ∈ items, measure item = 0 := by
  constructor
  · intro zero item member
    have least := nonneg item member
    have most := le_sum_map measure items nonneg item member
    omega
  · exact sum_map_eq_zero measure items

/-- With distinct keys only one item contributes to a sum restricted to one key. -/
theorem sum_map_of_key {K : Type} [DecidableEq K] (key : α → K) (measure : α → Int)
    (items : List α) (distinct : (items.map key).Nodup) (item : α) (member : item ∈ items) :
    (items.map fun other => if key other = key item then measure other else 0).sum =
      measure item := by
  induction items with
  | nil => cases member
  | cons first rest ih =>
      rw [List.map_cons, List.nodup_cons] at distinct
      rw [List.map_cons, List.sum_cons]
      rcases List.mem_cons.mp member with rfl | inside
      · have others : (rest.map fun other =>
            if key other = key item then measure other else 0).sum = 0 := by
          apply sum_map_eq_zero
          intro other later
          have different : key other ≠ key item := fun same =>
            distinct.1 (same ▸ List.mem_map.mpr ⟨other, later, rfl⟩)
          rw [if_neg different]
        rw [if_pos rfl, others, Int.add_zero]
      · have different : key first ≠ key item := fun same =>
          distinct.1 (same ▸ List.mem_map.mpr ⟨item, inside, rfl⟩)
        rw [if_neg different, ih distinct.2 inside, Int.zero_add]

theorem sum_map_flatMap (measure : β → Int) (expand : α → List β) (items : List α) :
    ((items.flatMap expand).map measure).sum =
      (items.map fun item => ((expand item).map measure).sum).sum := by
  induction items with
  | nil => rfl
  | cons first rest ih =>
      rw [List.flatMap_cons, List.map_append, List.sum_append, ih, List.map_cons, List.sum_cons]

/-- A gap at one item is a gap between the sums. -/
theorem sum_map_add_le (small large : α → Int) (items : List α)
    (below : ∀ item ∈ items, small item ≤ large item)
    {item : α} (member : item ∈ items) {gap : Int} (apart : small item + gap ≤ large item) :
    (items.map small).sum + gap ≤ (items.map large).sum := by
  induction items with
  | nil => cases member
  | cons first rest ih =>
      obtain ⟨here, later⟩ := List.forall_mem_cons.mp below
      rw [List.map_cons, List.sum_cons, List.map_cons, List.sum_cons]
      rcases List.mem_cons.mp member with rfl | inside
      · have tail := List.sum_le_sum later
        omega
      · have tail := ih later inside
        omega

theorem le_foldl_max {K : Type} [LinearOrder K] (measure : α → K) (items : List α) (start : K) :
    start ≤ items.foldl (fun most item => max most (measure item)) start ∧
      ∀ item ∈ items, measure item ≤ items.foldl (fun most item => max most (measure item)) start := by
  induction items generalizing start with
  | nil => simp
  | cons first rest ih =>
      obtain ⟨above, others⟩ := ih (max start (measure first))
      rw [List.foldl_cons]
      exact ⟨(le_max_left _ _).trans above, List.forall_mem_cons.mpr
        ⟨(le_max_right _ _).trans above, others⟩⟩

theorem foldl_max_le {K : Type} [LinearOrder K] {measure : α → K} {items : List α} {start bound : K}
    (first : start ≤ bound) (each : ∀ item ∈ items, measure item ≤ bound) :
    items.foldl (fun most item => max most (measure item)) start ≤ bound := by
  induction items generalizing start with
  | nil => exact first
  | cons item rest ih =>
      obtain ⟨here, later⟩ := List.forall_mem_cons.mp each
      exact ih (max_le first here) later

theorem foldl_min_le {K : Type} [LinearOrder K] (measure : α → K) (items : List α) (start : K) :
    items.foldl (fun least item => min least (measure item)) start ≤ start ∧
      ∀ item ∈ items, items.foldl (fun least item => min least (measure item)) start ≤ measure item :=
  le_foldl_max (K := Kᵒᵈ) measure items start

end TrafficFabric
