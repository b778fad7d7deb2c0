import TrafficFabric.Reordering

set_option autoImplicit false

/- The authority of reordered facts. It is the same exactly when no demand lists one label key
with two values: of several values canonicalization keeps the first, and the digest of the
demands reads it. -/
namespace TrafficFabric

/-- Images that agree but for one element agree on it too. -/
theorem image_eq_of_flatMap {α τ : Type} {image other : α → List τ} {items : List α} {item : α}
    (nodup : items.Nodup) (member : item ∈ items)
    (agree : ∀ element ∈ items, element ≠ item → image element = other element)
    (same : items.flatMap image = items.flatMap other) : image item = other item := by
  obtain ⟨before, after, rfl⟩ := List.append_of_mem member
  have apart := List.nodup_middle.1 nodup
  have absent : item ∉ before ++ after := (List.nodup_cons.1 apart).1
  have equal : ∀ part : List α, part ⊆ before ++ after → part.flatMap image = part.flatMap other := by
    intro part inside
    rw [List.flatMap_def, List.flatMap_def, List.map_congr_left]
    intro element here
    have listed := inside here
    apply agree element (by simp only [List.mem_append, List.mem_cons] at listed ⊢; tauto)
    rintro rfl
    exact absent listed
  rw [List.flatMap_append, List.flatMap_append, List.flatMap_cons, List.flatMap_cons,
    equal before (List.subset_append_left _ _), equal after (List.subset_append_right _ _)] at same
  exact List.append_cancel_right (List.append_cancel_left same)

/-! One value moved to the front. -/

section Labels

variable {before after : List (Text × Text)} {moved kept : Text × Text}

/-- Labels that are written alike, though one value took the place of another, are the same. -/
theorem kept_eq_of_labels (first : FirstOfKey Prod.fst (before ++ moved :: after) kept)
    (samekey : kept.1 = moved.1) (movedFits : FitsCount moved.2.length)
    (keptFits : FitsCount kept.2.length)
    (same : Writer.labels (sortUnique Prod.fst (before ++ moved :: after)) =
      Writer.labels (sortUnique Prod.fst (moved :: (before ++ after)))) : kept = moved := by
  have listed : kept ∈ sortUnique Prod.fst (before ++ moved :: after) :=
    (mem_sortUnique Prod.fst _ kept).2 first
  have distinct := nodup_sortUnique (Prod.fst : Text × Text → Text) (before ++ moved :: after)
  rw [sortUnique_moved first samekey] at same
  unfold Writer.labels Writer.sequence at same
  rw [List.length_map, List.flatMap_map] at same
  have images := image_eq_of_flatMap distinct.of_map listed ?_ (List.append_cancel_left same)
  · rw [if_pos samekey, samekey] at images
    have values := List.append_cancel_left images
    exact Prod.ext samekey (Writer.str_delimits.fact_eq keptFits movedFits values)
  · intro label inside apart
    have missed : ¬ label.1 = moved.1 := by
      intro equal
      exact apart (eq_of_nodup_key distinct inside listed (equal.trans samekey.symm))
    rw [if_neg missed]

end Labels

theorem exists_moved {labels : List (Text × Text)} (several : ¬ OnePerKey Prod.fst labels) :
    ∃ before moved after kept, labels = before ++ moved :: after ∧ FirstOfKey Prod.fst labels kept ∧
      kept.1 = moved.1 ∧ kept ≠ moved := by
  unfold OnePerKey at several
  push Not at several
  obtain ⟨first, left, second, right, samekey, unlike⟩ := several
  obtain ⟨kept, least, same⟩ := exists_firstOfKey Prod.fst left
  by_cases taken : kept = first
  · obtain ⟨before, after, split⟩ := List.append_of_mem right
    exact ⟨before, second, after, kept, split, least, same.trans samekey,
      fun equal => unlike (taken ▸ equal)⟩
  · obtain ⟨before, after, split⟩ := List.append_of_mem left
    exact ⟨before, first, after, kept, split, least, same, taken⟩

/-! One demand with its labels in another order. -/

section Relabelled

variable {snapshot : FabricSnapshot} {front back : List Demand} {demand : Demand}
  {labels : List (Text × Text)}

/-- The snapshot with other labels for the demand between the two parts. -/
def relabelled (snapshot : FabricSnapshot) (front back : List Demand) (demand : Demand)
    (labels : List (Text × Text)) : FabricSnapshot :=
  { snapshot with demands := front ++ { demand with labels := labels } :: back }

theorem reordered_relabelled (split : snapshot.demands = front ++ demand :: back)
    (perm : demand.labels.Perm labels) :
    snapshot.Reordered (relabelled snapshot front back demand labels) := by
  apply reordered_demands
  rw [split]
  have others : ∀ part : List Demand, List.Forall₂ Demand.Reordered part part :=
    fun part => List.forall₂_same.2 fun demand _ => Demand.Reordered.refl demand
  refine List.rel_append (others front) (.cons ?_ (others back))
  exact { Demand.Reordered.refl demand with labels := perm }

/-- Only the labels of the one demand change. -/
theorem demands_relabelled (split : snapshot.demands = front ++ demand :: back)
    (nodup : (snapshot.demands.map Demand.id).Nodup) :
    (canonicalize (relabelled snapshot front back demand labels)).demands =
      (canonicalize snapshot).demands.map fun other =>
        if other.id = demand.id then { other with labels := sortUnique Prod.fst labels } else other := by
  have ids : ∀ other : Demand, (if other.id = demand.id then
      { other with labels := sortUnique Prod.fst labels } else other).id = other.id := by
    intro other
    split <;> rfl
  change stableSort Demand.id _ = (stableSort Demand.id _).map _
  rw [@map_stableSort _ _ _ _ Demand.id Demand.id _ _ ids]
  congr 1
  rw [split, List.map_append, List.map_cons] at nodup
  have absent := (List.nodup_cons.1 (List.nodup_middle.1 nodup)).1
  have unchanged : ∀ part : List Demand, part ⊆ front ++ back →
      part.map canonicalizeDemand = (part.map canonicalizeDemand).map fun other =>
        if other.id = demand.id then { other with labels := sortUnique Prod.fst labels } else other := by
    intro part inside
    rw [List.map_map]
    apply List.map_congr_left
    intro other member
    have apart : ¬ (canonicalizeDemand other).id = demand.id := by
      intro same
      have listed := List.mem_map_of_mem (f := Demand.id) (inside member)
      rw [List.map_append] at listed
      exact absent (same ▸ listed)
    exact (if_neg apart).symm
  have changed : canonicalizeDemand { demand with labels := labels } =
      if (canonicalizeDemand demand).id = demand.id then
        { canonicalizeDemand demand with labels := sortUnique Prod.fst labels }
      else canonicalizeDemand demand :=
    (if_pos (show (canonicalizeDemand demand).id = demand.id from rfl)).symm
  rw [split]
  simp only [relabelled, List.map_append, List.map_cons]
  rw [← unchanged front (List.subset_append_left _ _),
    ← unchanged back (List.subset_append_right _ _), changed]

end Relabelled

/-- Demands that are written alike carry the same labels. -/
theorem labels_eq_of_written {demand : Demand} {labels : List (Text × Text)}
    (same : Writer.demand demand = Writer.demand { demand with labels := labels }) :
    Writer.labels demand.labels = Writer.labels labels := by
  unfold Writer.demand at same
  exact List.append_cancel_left (List.append_cancel_right (List.append_cancel_right same))

/-- No demand lists one label key with two values. -/
def FabricSnapshot.OneValuePerLabel (snapshot : FabricSnapshot) : Prop :=
  ∀ demand ∈ snapshot.demands, OnePerKey Prod.fst demand.labels

/-- The authority of the facts is the same in every order exactly when no demand lists one label
key with two values. -/
theorem authority_unordered_iff {snapshot : FabricSnapshot} (accepted : Accepted (canonicalize snapshot))
    (fits : ∀ demand ∈ snapshot.demands, ∀ label ∈ demand.labels, FitsCount label.2.length)
    (separates : ∀ other, snapshot.Reordered other → Separates (text "tef.demands.v1")
      (Writer.sequence Writer.demand (canonicalize snapshot).demands)
      (Writer.sequence Writer.demand (canonicalize other).demands)) :
    (∀ other, snapshot.Reordered other →
      authorityOf (canonicalize snapshot) = authorityOf (canonicalize other)) ↔
        snapshot.OneValuePerLabel := by
  constructor
  · intro unordered demand member
    by_contra several
    obtain ⟨before, moved, after, kept, labels, first, samekey, unlike⟩ := exists_moved several
    obtain ⟨front, back, split⟩ := List.append_of_mem member
    have nodup : ((snapshot.demands.map canonicalizeDemand).map Demand.id).Nodup :=
      nodup_of_stableSort accepted.demand_checks.2
    have ids : (snapshot.demands.map Demand.id).Nodup := by
      rw [List.map_map] at nodup
      exact nodup
    have perm : demand.labels.Perm (moved :: (before ++ after)) := by
      rw [labels]
      exact List.perm_middle
    have reordered := reordered_relabelled split perm
    have digests := congrArg AuthorityVector.demandSetDigest (unordered _ reordered)
    have written := separates _ reordered digests
    rw [demands_relabelled split ids] at written
    unfold Writer.sequence at written
    rw [List.length_map, List.flatMap_map] at written
    have inside : canonicalizeDemand demand ∈ (canonicalize snapshot).demands :=
      (mem_stableSort _ _ _).2 (List.mem_map_of_mem member)
    have images := image_eq_of_flatMap accepted.demand_checks.2.of_map inside ?_
      (List.append_cancel_left written)
    · rw [if_pos (show (canonicalizeDemand demand).id = demand.id from rfl)] at images
      have same := labels_eq_of_written images
      have values := fits demand member
      change Writer.labels (sortUnique Prod.fst demand.labels) = _ at same
      rw [labels] at same first values
      exact unlike (kept_eq_of_labels first samekey (values moved (by simp)) (values kept first.mem) same)
    · intro other listed apart
      have missed : ¬ other.id = demand.id := fun equal =>
        apart (eq_of_nodup_key accepted.demand_checks.2 listed inside equal)
      rw [if_neg missed]
  · intro one other reordered
    rw [reordered.canonicalize_eq accepted one]

theorem authority_unordered_iff_labelFabric :
    (∀ other, (labelFabric [(text "class", text "gold")]).Reordered other →
      authorityOf (canonicalize (labelFabric [(text "class", text "gold")])) =
        authorityOf (canonicalize other)) ↔
      (labelFabric [(text "class", text "gold")]).OneValuePerLabel := by
  have accepted : Accepted (canonicalize (labelFabric [(text "class", text "gold")])) :=
    accepted_of_checks _ (by decide +kernel) (by decide +kernel)
  have one : (labelFabric [(text "class", text "gold")]).OneValuePerLabel := by
    intro demand member first left second right _
    cases List.mem_singleton.1 member
    rw [List.mem_singleton.1 left, List.mem_singleton.1 right]
  apply authority_unordered_iff accepted
  · intro demand member label listed
    cases List.mem_singleton.1 member
    cases List.mem_singleton.1 listed
    decide
  · intro other reordered _
    rw [reordered.canonicalize_eq accepted one]

/-- One demand labelled twice under one key: the authority depends on which label comes first. -/
theorem labelFabric_authority_ordered :
    Accepted (canonicalize (labelFabric [(text "k", text "a"), (text "k", text "b")])) ∧
    (labelFabric [(text "k", text "a"), (text "k", text "b")]).Reordered
      (labelFabric [(text "k", text "b"), (text "k", text "a")]) ∧
    authorityOf (canonicalize (labelFabric [(text "k", text "a"), (text "k", text "b")])) ≠
      authorityOf (canonicalize (labelFabric [(text "k", text "b"), (text "k", text "a")])) := by
  refine ⟨accepted_of_checks _ (by decide +kernel) (by decide +kernel), labelFabric_reordered _ _, ?_⟩
  intro same
  have digests := congrArg AuthorityVector.demandSetDigest same
  have apart :
    demandSetDigest (canonicalize (labelFabric [(text "k", text "a"), (text "k", text "b")])).demands ≠
      demandSetDigest
        (canonicalize (labelFabric [(text "k", text "b"), (text "k", text "a")])).demands := by
    decide +kernel
  exact apart digests

end TrafficFabric
