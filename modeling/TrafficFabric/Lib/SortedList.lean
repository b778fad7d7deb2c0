import Mathlib.Data.List.Sort
import Mathlib.Data.List.Destutter
import Mathlib.Order.MinMax

set_option autoImplicit false

namespace TrafficFabric

variable {α K : Type} [LinearOrder K]

/-- `std::stable_sort` by a key. Elements with equal keys keep their order. -/
def stableSort (key : α → K) (items : List α) : List α :=
  items.insertionSort (fun first second => key first ≤ key second)

/-- Stable sort by a key, keeping only the first element of each key. -/
def sortUnique (key : α → K) (items : List α) : List α :=
  (stableSort key items).destutter (fun first second => key first ≠ key second)

/-- `std::adjacent_find` reports a pair of equal neighbours. -/
def adjacentFind [DecidableEq α] : List α → Bool
  | first :: second :: rest => first == second || adjacentFind (second :: rest)
  | _ => false

instance keyOrderTotal (key : α → K) : Std.Total (fun first second => key first ≤ key second) :=
  ⟨fun first second => le_total (key first) (key second)⟩

instance keyOrderTrans (key : α → K) : IsTrans α (fun first second => key first ≤ key second) :=
  ⟨fun _ _ _ => le_trans⟩

theorem stableSort_perm (key : α → K) (items : List α) : (stableSort key items).Perm items :=
  List.perm_insertionSort _ items

@[simp] theorem mem_stableSort (key : α → K) (items : List α) (item : α) :
    item ∈ stableSort key items ↔ item ∈ items := (stableSort_perm key items).mem_iff

theorem stableSort_sorted (key : α → K) (items : List α) :
    (stableSort key items).Pairwise (fun first second => key first ≤ key second) :=
  List.pairwise_insertionSort _ items

theorem stableSort_eq_self (key : α → K) (items : List α)
    (sorted : items.Pairwise (fun first second => key first ≤ key second)) :
    stableSort key items = items := sorted.insertionSort_eq

/-- Sorted with no equal neighbours is strictly sorted. -/
theorem strict_of_sorted_of_chain (key : α → K) (items : List α)
    (sorted : items.Pairwise (fun first second => key first ≤ key second))
    (chain : items.IsChain (fun first second => key first ≠ key second)) :
    items.Pairwise (fun first second => key first < key second) := by
  induction items with
  | nil => exact List.Pairwise.nil
  | cons first rest ih =>
      obtain ⟨least, tail⟩ := List.pairwise_cons.mp sorted
      cases rest with
      | nil => exact List.pairwise_singleton _ _
      | cons second later =>
          obtain ⟨different, tailChain⟩ := List.isChain_cons_cons.mp chain
          have tailStrict := ih tail tailChain
          have step : key first < key second :=
            lt_of_le_of_ne (least second List.mem_cons_self) different
          refine List.pairwise_cons.mpr ⟨?_, tailStrict⟩
          intro other member
          rcases List.mem_cons.mp member with rfl | inside
          · exact step
          · exact step.trans ((List.pairwise_cons.mp tailStrict).1 other inside)

theorem sortUnique_strict (key : α → K) (items : List α) :
    (sortUnique key items).Pairwise (fun first second => key first < key second) :=
  strict_of_sorted_of_chain key _
    ((stableSort_sorted key items).sublist (List.destutter_sublist _ _))
    (List.isChain_destutter _ _)

theorem sortUnique_eq_self (key : α → K) (items : List α)
    (strict : items.Pairwise (fun first second => key first < key second)) :
    sortUnique key items = items := by
  unfold sortUnique
  rw [stableSort_eq_self key items (strict.imp le_of_lt)]
  exact List.destutter_of_isChain _ _ (strict.imp ne_of_lt).isChain

/-- Dropping repeated neighbours loses no key. -/
theorem exists_mem_destutter' {L : Type} [DecidableEq L] (key : α → L) (items : List α) (first item : α)
    (member : item ∈ first :: items) :
    ∃ kept ∈ items.destutter' (fun first second => key first ≠ key second) first,
      key kept = key item := by
  induction items generalizing first with
  | nil =>
      rw [List.mem_singleton] at member
      exact ⟨first, by simp, by rw [member]⟩
  | cons second rest ih =>
      by_cases different : key first ≠ key second
      · rw [List.destutter'_cons_pos rest different]
        rcases List.mem_cons.mp member with same | later
        · exact ⟨first, List.mem_cons_self, by rw [same]⟩
        · obtain ⟨kept, inside, equal⟩ := ih second later
          exact ⟨kept, List.mem_cons_of_mem _ inside, equal⟩
      · rw [List.destutter'_cons_neg rest different]
        rcases List.mem_cons.mp member with same | later
        · exact ih first (same ▸ List.mem_cons_self)
        · rcases List.mem_cons.mp later with same | inside
          · have equalKeys : key first = key second := not_not.mp different
            exact ⟨first, List.mem_destutter' _ _ _, by rw [equalKeys, same]⟩
          · exact ih first (List.mem_cons_of_mem _ inside)

theorem mem_destutter [DecidableEq α] (items : List α) (item : α) :
    item ∈ items.destutter (· ≠ ·) ↔ item ∈ items := by
  constructor
  · intro kept
    exact (List.destutter_sublist _ _).subset kept
  · intro member
    cases items with
    | nil => cases member
    | cons first rest =>
        obtain ⟨kept, inside, same⟩ := exists_mem_destutter' id rest first item member
        rw [id, id] at same
        rw [List.destutter_cons', ← same]
        exact inside

theorem mem_sortUnique_id (items : List K) (item : K) : item ∈ sortUnique id items ↔ item ∈ items := by
  rw [← mem_stableSort id items item]
  exact mem_destutter _ item

theorem chain_of_adjacentFind [DecidableEq α] (items : List α)
    (none : adjacentFind items = false) : items.IsChain (· ≠ ·) := by
  induction items with
  | nil => exact List.IsChain.nil
  | cons first rest ih =>
      cases rest with
      | nil => exact List.IsChain.singleton _
      | cons second later =>
          simp only [adjacentFind, Bool.or_eq_false_iff, beq_eq_false_iff_ne, ne_eq] at none
          exact List.isChain_cons_cons.mpr ⟨none.1, ih none.2⟩

/-- Sorting identities and finding no equal neighbours means there is no duplicate. -/
theorem nodup_of_adjacentFind [DecidableEq K] (items : List K)
    (none : adjacentFind (stableSort id items) = false) : items.Nodup := by
  have strict : (stableSort id items).Pairwise (fun first second => id first < id second) :=
    strict_of_sorted_of_chain id _ (stableSort_sorted id items) (chain_of_adjacentFind _ none)
  exact (stableSort_perm id items).nodup_iff.mp (strict.imp ne_of_lt)

theorem adjacentFind_of_strict [DecidableEq K] (items : List K) (strict : items.Pairwise (· < ·)) :
    adjacentFind items = false := by
  induction items with
  | nil => rfl
  | cons first rest ih =>
      cases rest with
      | nil => rfl
      | cons second later =>
          obtain ⟨least, tail⟩ := List.pairwise_cons.mp strict
          have different : first ≠ second := ne_of_lt (least second List.mem_cons_self)
          simp only [adjacentFind, Bool.or_eq_false_iff, beq_eq_false_iff_ne, ne_eq]
          exact ⟨different, ih tail⟩

theorem pairwise_lt_of_le_of_nodup (key : α → K) (items : List α)
    (sorted : items.Pairwise (fun first second => key first ≤ key second))
    (nodup : (items.map key).Nodup) :
    items.Pairwise (fun first second => key first < key second) := by
  have different : items.Pairwise (fun first second => key first ≠ key second) :=
    List.pairwise_map.mp nodup
  exact (sorted.and different).imp fun both => lt_of_le_of_ne both.1 both.2

/-- The first position whose element is not below the value, found by halving the
remaining range (`std::lower_bound`). The fuel bounds the number of halvings. -/
def lowerBound (items : List K) (value : K) : Nat → Nat → Nat → Nat
  | 0, first, _ => first
  | fuel + 1, first, count =>
      if count = 0 then first
      else
        let step := count / 2
        match items[first + step]? with
        | none => first
        | some probe =>
            if probe < value then lowerBound items value fuel (first + step + 1) (count - (step + 1))
            else lowerBound items value fuel first step

def binarySearch (items : List K) (value : K) : Bool :=
  match items[lowerBound items value (items.length + 1) 0 items.length]? with
  | none => false
  | some found => !decide (value < found)

/-- The loop invariant of the halving search: everything before the range is below
the value, everything after it is not. -/
theorem lowerBound_spec (items : List K) (value : K) (sorted : items.Pairwise (· ≤ ·))
    (fuel first count : Nat) (fuelled : count < fuel) (inside : first + count ≤ items.length)
    (below : ∀ index found, items[index]? = some found → index < first → found < value)
    (above : ∀ index found, items[index]? = some found → first + count ≤ index → value ≤ found) :
    (∀ index found, items[index]? = some found →
      index < lowerBound items value fuel first count → found < value) ∧
    (∀ index found, items[index]? = some found →
      lowerBound items value fuel first count ≤ index → value ≤ found) := by
  induction fuel generalizing first count with
  | zero => omega
  | succ fuel ih =>
      unfold lowerBound
      by_cases empty : count = 0
      · simp only [empty, ↓reduceIte, Nat.add_zero] at above ⊢
        exact ⟨below, above⟩
      · have middle : first + count / 2 < items.length := by omega
        have probed : items[first + count / 2]? = some items[first + count / 2] :=
          List.getElem?_eq_getElem middle
        simp only [empty, ↓reduceIte, probed]
        split
        · rename_i small
          refine ih _ _ (by omega) (by omega) ?_ ?_
          · intro index found at_ early
            have bound : index < items.length := (List.getElem?_eq_some_iff.mp at_).1
            have value_eq : items[index] = found := (List.getElem?_eq_some_iff.mp at_).2
            by_cases same : index = first + count / 2
            · subst same
              rw [← value_eq]
              exact small
            · have order := List.pairwise_iff_getElem.mp sorted index (first + count / 2) bound
                middle (by omega)
              rw [← value_eq]
              exact lt_of_le_of_lt order small
          · intro index found at_ late
            exact above index found at_ (by omega)
        · rename_i large
          refine ih _ _ (by omega) (by omega) below ?_
          intro index found at_ late
          have bound : index < items.length := (List.getElem?_eq_some_iff.mp at_).1
          have value_eq : items[index] = found := (List.getElem?_eq_some_iff.mp at_).2
          by_cases same : index = first + count / 2
          · subst same
            rw [← value_eq]
            exact not_lt.mp large
          · have order := List.pairwise_iff_getElem.mp sorted (first + count / 2) index middle
              bound (by omega)
            rw [← value_eq]
            exact (not_lt.mp large).trans order

/-- On a sorted list binary search decides membership. -/
theorem binarySearch_iff (items : List K) (value : K) (sorted : items.Pairwise (· ≤ ·)) :
    binarySearch items value = true ↔ value ∈ items := by
  obtain ⟨below, above⟩ := lowerBound_spec items value sorted (items.length + 1) 0 items.length
    (by omega) (by omega) (fun _ _ _ early => absurd early (Nat.not_lt_zero _))
    (fun index found at_ late => by
      have bound : index < items.length := (List.getElem?_eq_some_iff.mp at_).1
      omega)
  unfold binarySearch
  constructor
  · intro found
    split at found
    · cases found
    · rename_i element probed
      have notBelow : ¬ value < element := by simpa using found
      have notAbove : value ≤ element := above _ element probed (Nat.le_refl _)
      have same : value = element := le_antisymm notAbove (not_lt.mp notBelow)
      rw [same]
      exact List.mem_of_getElem? probed
  · intro member
    obtain ⟨index, at_⟩ := List.mem_iff_getElem?.mp member
    have late : lowerBound items value (items.length + 1) 0 items.length ≤ index := by
      by_contra early
      exact lt_irrefl value (below index value at_ (by omega))
    have bound : index < items.length := (List.getElem?_eq_some_iff.mp at_).1
    have probed := List.getElem?_eq_getElem
      (show lowerBound items value (items.length + 1) 0 items.length < items.length by omega)
    rw [probed]
    have least : items[lowerBound items value (items.length + 1) 0 items.length] ≤ value := by
      by_cases same : lowerBound items value (items.length + 1) 0 items.length = index
      · have value_eq : items[index] = value := (List.getElem?_eq_some_iff.mp at_).2
        simp only [same, value_eq, le_refl]
      · have order := List.pairwise_iff_getElem.mp sorted
          (lowerBound items value (items.length + 1) 0 items.length) index (by omega) bound (by omega)
        have value_eq : items[index] = value := (List.getElem?_eq_some_iff.mp at_).2
        rwa [value_eq] at order
    simpa using least

end TrafficFabric
