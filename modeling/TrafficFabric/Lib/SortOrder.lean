import TrafficFabric.Lib.SortedList

set_option autoImplicit false

/- What a sort makes of a list does not depend on the order the list came in, unless two
elements share a key. The first element with a key is the one `sortUnique` keeps. -/
namespace TrafficFabric

variable {α β K : Type} [LinearOrder K]

omit [LinearOrder K] in
theorem eq_of_nodup_key {key : α → K} {items : List α} (nodup : (items.map key).Nodup) {first second : α}
    (left : first ∈ items) (right : second ∈ items) (same : key first = key second) : first = second :=
  List.inj_on_of_nodup_map nodup left right same

theorem stableSort_eq_of_perm {key : α → K} {items others : List α} (nodup : (items.map key).Nodup)
    (perm : items.Perm others) : stableSort key items = stableSort key others := by
  have sorted : (stableSort key items).Perm (stableSort key others) :=
    (stableSort_perm key items).trans (perm.trans (stableSort_perm key others).symm)
  apply sorted.eq_of_pairwise ?_ (stableSort_sorted key items) (stableSort_sorted key others)
  intro first second left right below above
  rw [mem_stableSort] at left right
  exact eq_of_nodup_key nodup left (perm.mem_iff.2 right) (le_antisymm below above)

theorem map_stableSort {key : α → K} {image : β → K} (change : α → β) (items : List α)
    (same : ∀ item, image (change item) = key item) :
    (stableSort key items).map change = stableSort image (items.map change) := by
  apply List.map_insertionSort
  intro first _ second _
  rw [same, same]

/-- A stable sort keeps the elements of one key in their order. -/
theorem filter_orderedInsert (key : α → K) (wanted : K) (item : α) (items : List α) :
    (items.orderedInsert (fun first second => key first ≤ key second) item).filter
        (fun other => key other = wanted) =
      (item :: items).filter fun other => key other = wanted := by
  induction items with
  | nil => rfl
  | cons first rest ih =>
      by_cases before : key item ≤ key first
      · simp only [List.orderedInsert_cons, before, ↓reduceIte]
      · simp only [List.orderedInsert_cons, before, ↓reduceIte]
        rw [List.filter_cons, ih]
        by_cases hit : key first = wanted
        · have other : key item ≠ wanted := by
            intro same
            exact before (le_of_eq (same.trans hit.symm))
          simp [hit, other]
        · simp [hit, List.filter_cons]

theorem filter_stableSort (key : α → K) (wanted : K) (items : List α) :
    (stableSort key items).filter (fun other => key other = wanted) =
      items.filter fun other => key other = wanted := by
  induction items with
  | nil => rfl
  | cons item rest ih =>
      unfold stableSort at ih ⊢
      rw [List.insertionSort_cons, filter_orderedInsert, List.filter_cons, List.filter_cons, ih]

theorem find?_stableSort (key : α → K) (wanted : K) (items : List α) :
    (stableSort key items).find? (fun other => key other = wanted) =
      items.find? fun other => key other = wanted := by
  rw [← List.head?_filter, filter_stableSort, List.head?_filter]

theorem find?_destutter' (key : α → K) (wanted : K) (items : List α) (first : α) :
    (items.destutter' (fun first second => key first ≠ key second) first).find?
        (fun other => key other = wanted) =
      (first :: items).find? fun other => key other = wanted := by
  induction items generalizing first with
  | nil => rfl
  | cons second rest ih =>
      by_cases different : key first ≠ key second
      · rw [List.destutter'_cons_pos rest different, List.find?_cons, ih]
        rfl
      · have same : key first = key second := not_not.1 different
        rw [List.destutter'_cons_neg rest different, ih]
        by_cases hit : key first = wanted
        · simp [hit]
        · have missed : key second ≠ wanted := by rwa [← same]
          simp [hit, missed]

/-- Of each key the first element is found. -/
theorem find?_sortUnique (key : α → K) (wanted : K) (items : List α) :
    (sortUnique key items).find? (fun other => key other = wanted) =
      items.find? fun other => key other = wanted := by
  rw [← find?_stableSort key wanted items]
  unfold sortUnique
  cases stableSort key items with
  | nil => rfl
  | cons first rest => exact find?_destutter' key wanted rest first

theorem nodup_sortUnique (key : α → K) (items : List α) : ((sortUnique key items).map key).Nodup :=
  List.pairwise_map.2 ((sortUnique_strict key items).imp ne_of_lt)

/-- The first element of a list with its key. -/
def FirstOfKey (key : α → K) (items : List α) (item : α) : Prop :=
  items.find? (fun other => key other = key item) = some item

theorem exists_firstOfKey (key : α → K) {items : List α} {item : α} (member : item ∈ items) :
    ∃ kept, FirstOfKey key items kept ∧ key kept = key item := by
  cases found : items.find? fun other => key other = key item with
  | none =>
      have missed := List.find?_eq_none.1 found item member
      simp at missed
  | some kept =>
      have same : key kept = key item := by simpa using List.find?_some found
      refine ⟨kept, ?_, same⟩
      unfold FirstOfKey
      rwa [same]

theorem FirstOfKey.mem {key : α → K} {items : List α} {item : α} (first : FirstOfKey key items item) :
    item ∈ items := List.mem_of_find?_eq_some first

/-- An element is kept when it is the first of its key. -/
theorem mem_sortUnique (key : α → K) (items : List α) (item : α) :
    item ∈ sortUnique key items ↔ FirstOfKey key items item := by
  unfold FirstOfKey
  rw [← find?_sortUnique]
  constructor
  · intro member
    obtain ⟨kept, first, same⟩ := exists_firstOfKey key member
    rw [eq_of_nodup_key (nodup_sortUnique key items) first.mem member same] at first
    exact first
  · intro found
    exact List.mem_of_find?_eq_some found

theorem keys_sortUnique (key : α → K) (items : List α) (wanted : K) :
    wanted ∈ (sortUnique key items).map key ↔ wanted ∈ items.map key := by
  simp only [List.mem_map, mem_sortUnique]
  constructor
  · rintro ⟨item, first, rfl⟩
    exact ⟨item, first.mem, rfl⟩
  · rintro ⟨item, member, rfl⟩
    exact exists_firstOfKey key member

theorem eq_of_strict {key : α → K} {items others : List α}
    (left : items.Pairwise fun first second => key first < key second)
    (right : others.Pairwise fun first second => key first < key second)
    (same : ∀ item, item ∈ items ↔ item ∈ others) : items = others := by
  have asymmetric : Std.Antisymm fun first second : α => key first < key second :=
    ⟨fun _ _ below above => absurd below (lt_asymm above)⟩
  have irreflexive : Std.Irrefl fun first second : α => key first < key second :=
    ⟨fun item => lt_irrefl (key item)⟩
  exact left.eq_of_mem_iff right same

/-- No two elements share a key. -/
def OnePerKey (key : α → K) (items : List α) : Prop :=
  ∀ first ∈ items, ∀ second ∈ items, key first = key second → first = second

theorem OnePerKey.first_iff {key : α → K} {items : List α} (one : OnePerKey key items) (item : α) :
    FirstOfKey key items item ↔ item ∈ items := by
  constructor
  · exact FirstOfKey.mem
  · intro member
    obtain ⟨kept, first, same⟩ := exists_firstOfKey key member
    rwa [one kept first.mem item member same] at first

omit [LinearOrder K] in
theorem OnePerKey.of_perm {key : α → K} {items others : List α} (one : OnePerKey key items)
    (perm : items.Perm others) : OnePerKey key others :=
  fun first left second right => one first (perm.mem_iff.2 left) second (perm.mem_iff.2 right)

theorem sortUnique_eq_of_perm {key : α → K} {items others : List α} (one : OnePerKey key items)
    (perm : items.Perm others) : sortUnique key items = sortUnique key others := by
  apply eq_of_strict (sortUnique_strict key items) (sortUnique_strict key others)
  intro item
  rw [mem_sortUnique, mem_sortUnique, one.first_iff, (one.of_perm perm).first_iff]
  exact perm.mem_iff

theorem sortUnique_id_eq_of_perm {items others : List K} (perm : items.Perm others) :
    sortUnique id items = sortUnique id others :=
  sortUnique_eq_of_perm (fun _ _ _ _ same => same) perm

/-- An element that is moved to the front takes the place of the one that was kept of its key. -/
theorem sortUnique_moved {key : α → K} {before after : List α} {moved kept : α}
    (first : FirstOfKey key (before ++ moved :: after) kept) (samekey : key kept = key moved) :
    sortUnique key (moved :: (before ++ after)) =
      (sortUnique key (before ++ moved :: after)).map fun item =>
        if key item = key moved then moved else item := by
  have keys : ∀ item, key (if key item = key moved then moved else item) = key item := by
    intro item
    split
    · rename_i same
      exact same.symm
    · rfl
  apply eq_of_strict (sortUnique_strict key _)
  · rw [List.pairwise_map]
    apply (sortUnique_strict key (before ++ moved :: after)).imp
    intro left right below
    rwa [keys, keys]
  · intro item
    rw [mem_sortUnique, List.mem_map]
    unfold FirstOfKey
    by_cases hit : key item = key moved
    · rw [List.find?_cons_of_pos (by simp [hit])]
      constructor
      · intro here
        refine ⟨kept, (mem_sortUnique key _ kept).2 first, ?_⟩
        rw [if_pos samekey]
        exact Option.some.inj here
      · rintro ⟨other, -, image⟩
        have otherHit : key other = key moved := by rw [← keys other, image, hit]
        rw [if_pos otherHit] at image
        rw [image]
    · have missed : ¬ key moved = key item := fun same => hit same.symm
      have skipped : (moved :: (before ++ after)).find? (fun other => key other = key item) =
          (before ++ moved :: after).find? fun other => key other = key item := by
        simp [List.find?_append, missed]
      rw [skipped]
      constructor
      · intro here
        exact ⟨item, (mem_sortUnique key _ item).2 here, if_neg hit⟩
      · rintro ⟨other, listed, image⟩
        have otherMissed : ¬ key other = key moved := by
          rw [← keys other, image]
          exact hit
        rw [if_neg otherMissed] at image
        rw [← image]
        exact (mem_sortUnique key _ other).1 listed

/-- Lists that are equal up to a reordering and a relation of their elements. -/
def Rearranged (related : α → α → Prop) (items others : List α) : Prop :=
  ∃ order, items.Perm order ∧ List.Forall₂ related order others

theorem Rearranged.map_perm {related : α → α → Prop} {items others : List α}
    (rearranged : Rearranged related items others) {image : α → β}
    (same : ∀ first ∈ items, ∀ second, related first second → image first = image second) :
    (items.map image).Perm (others.map image) := by
  obtain ⟨order, perm, pairs⟩ := rearranged
  have equal : order.map image = others.map image := by
    have inside : ∀ first ∈ order, first ∈ items := fun first => perm.mem_iff.2
    clear perm
    induction pairs with
    | nil => rfl
    | cons pair _ ih =>
        rw [List.map_cons, List.map_cons, same _ (inside _ List.mem_cons_self) _ pair,
          ih fun other member => inside other (List.mem_cons_of_mem _ member)]
  rw [← equal]
  exact perm.map image

/-- Sorting what the related elements have in common. -/
theorem Rearranged.stableSort_eq {related : α → α → Prop} {items others : List α}
    (rearranged : Rearranged related items others) {image : α → β} {key : β → K}
    (same : ∀ first ∈ items, ∀ second, related first second → image first = image second)
    (nodup : ((items.map image).map key).Nodup) :
    stableSort key (items.map image) = stableSort key (others.map image) :=
  stableSort_eq_of_perm nodup (rearranged.map_perm same)

end TrafficFabric
