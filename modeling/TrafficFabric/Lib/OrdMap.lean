import TrafficFabric.Lib.Sums
import Mathlib.Data.List.Sort
import Mathlib.Algebra.BigOperators.Group.List.Basic
import Mathlib.Algebra.Order.BigOperators.Group.List
import Mathlib.Algebra.Order.Group.Int

set_option autoImplicit false

namespace TrafficFabric

/-- A map kept as its entries in strictly increasing key order, so that iterating
the map and iterating the list are the same thing and equal maps are equal values. -/
structure OrdMap (K V : Type) [LinearOrder K] where
  entries : List (K × V)
  ordered : entries.Pairwise (fun first second => first.1 < second.1)

namespace OrdMap

variable {K V W : Type} [LinearOrder K]

instance [DecidableEq V] : DecidableEq (OrdMap K V) := fun left right =>
  decidable_of_iff (left.entries = right.entries) (by cases left; cases right; simp)

/-- The value of the first entry with the given key. -/
def lookupEntries (key : K) : List (K × V) → Option V
  | [] => none
  | entry :: rest => if entry.1 = key then some entry.2 else lookupEntries key rest

/-- Single-pass insertion that replaces the value of a key already present. -/
def insertEntries (key : K) (value : V) : List (K × V) → List (K × V)
  | [] => [(key, value)]
  | entry :: rest =>
      if key < entry.1 then (key, value) :: entry :: rest
      else if key = entry.1 then (key, value) :: rest
      else entry :: insertEntries key value rest

theorem mem_insertEntries (key : K) (value : V) (entries : List (K × V)) (entry : K × V)
    (member : entry ∈ insertEntries key value entries) :
    entry = (key, value) ∨ entry ∈ entries := by
  induction entries with
  | nil => simpa [insertEntries] using member
  | cons head rest ih =>
      unfold insertEntries at member
      split at member
      · simpa using member
      · split at member
        · rcases List.mem_cons.mp member with same | later
          · exact Or.inl same
          · exact Or.inr (List.mem_cons_of_mem _ later)
        · rcases List.mem_cons.mp member with same | later
          · exact Or.inr (same ▸ List.mem_cons_self)
          · rcases ih later with same | old
            · exact Or.inl same
            · exact Or.inr (List.mem_cons_of_mem _ old)

theorem insertEntries_ordered (key : K) (value : V) (entries : List (K × V))
    (ordered : entries.Pairwise (fun first second => first.1 < second.1)) :
    (insertEntries key value entries).Pairwise (fun first second => first.1 < second.1) := by
  induction entries with
  | nil => simp [insertEntries]
  | cons head rest ih =>
      obtain ⟨above, tail⟩ := List.pairwise_cons.mp ordered
      unfold insertEntries
      split
      · rename_i below
        refine List.pairwise_cons.mpr ⟨?_, ordered⟩
        intro entry member
        rcases List.mem_cons.mp member with rfl | later
        · exact below
        · exact below.trans (above entry later)
      · rename_i notBelow
        split
        · rename_i same
          refine List.pairwise_cons.mpr ⟨?_, tail⟩
          intro entry later
          exact same ▸ above entry later
        · rename_i different
          refine List.pairwise_cons.mpr ⟨?_, ih tail⟩
          intro entry member
          rcases mem_insertEntries key value rest entry member with rfl | old
          · exact lt_of_le_of_ne (not_lt.mp notBelow) (Ne.symm different)
          · exact above entry old

theorem lookupEntries_insert_self (key : K) (value : V) (entries : List (K × V)) :
    lookupEntries key (insertEntries key value entries) = some value := by
  induction entries with
  | nil => simp [insertEntries, lookupEntries]
  | cons head rest ih =>
      unfold insertEntries
      split
      · simp [lookupEntries]
      · split
        · simp [lookupEntries]
        · rename_i different
          simp [lookupEntries, Ne.symm different, ih]

theorem lookupEntries_insert_ne (key other : K) (value : V) (entries : List (K × V))
    (different : other ≠ key) :
    lookupEntries other (insertEntries key value entries) = lookupEntries other entries := by
  induction entries with
  | nil => simp [insertEntries, lookupEntries, Ne.symm different]
  | cons head rest ih =>
      unfold insertEntries
      split
      · simp [lookupEntries, Ne.symm different]
      · split
        · rename_i same
          simp [lookupEntries, ← same, Ne.symm different]
        · by_cases hit : head.1 = other
          · simp [lookupEntries, hit]
          · simp [lookupEntries, hit, ih]

theorem lookupEntries_eq_none (key : K) (entries : List (K × V)) :
    lookupEntries key entries = none ↔ ∀ entry ∈ entries, entry.1 ≠ key := by
  induction entries with
  | nil => simp [lookupEntries]
  | cons head rest ih =>
      by_cases hit : head.1 = key
      · simp [lookupEntries, hit]
      · simp [lookupEntries, hit, ih]

/-- On strictly ordered entries looking a key up and finding its entry agree. -/
theorem lookupEntries_eq_some (key : K) (value : V) (entries : List (K × V))
    (ordered : entries.Pairwise (fun first second => first.1 < second.1)) :
    lookupEntries key entries = some value ↔ (key, value) ∈ entries := by
  induction entries with
  | nil => simp [lookupEntries]
  | cons head rest ih =>
      obtain ⟨above, tail⟩ := List.pairwise_cons.mp ordered
      by_cases hit : head.1 = key
      · have absent : (key, value) ∉ rest := by
          intro member
          exact absurd (above _ member) (by simp [hit])
        subst hit
        simp only [lookupEntries, ↓reduceIte, Option.some.injEq, List.mem_cons, absent, or_false]
        exact ⟨fun same => by rw [← same], fun same => (Prod.ext_iff.mp same).2.symm⟩
      · have notHead : (key, value) ≠ head := fun same => hit (by rw [← same])
        simp only [lookupEntries, hit, ↓reduceIte, ih tail, List.mem_cons, notHead, false_or]

def empty : OrdMap K V := ⟨[], List.Pairwise.nil⟩

instance : Inhabited (OrdMap K V) := ⟨empty⟩

def find? (map : OrdMap K V) (key : K) : Option V := lookupEntries key map.entries

def contains (map : OrdMap K V) (key : K) : Bool := (map.find? key).isSome

/-- Assignment through the index operator: insert or overwrite. -/
def insert (map : OrdMap K V) (key : K) (value : V) : OrdMap K V :=
  ⟨insertEntries key value map.entries, insertEntries_ordered key value map.entries map.ordered⟩

/-- Insertion that keeps the value of a key already present. -/
def emplace (map : OrdMap K V) (key : K) (value : V) : OrdMap K V :=
  if (map.find? key).isSome then map else map.insert key value

/-- In-place update of the value of a present key. -/
def modify (map : OrdMap K V) (key : K) (update : V → V) : OrdMap K V :=
  match map.find? key with
  | none => map
  | some value => map.insert key (update value)

def erase (map : OrdMap K V) (key : K) : OrdMap K V :=
  ⟨map.entries.filter (fun entry => entry.1 ≠ key), map.ordered.filter _⟩

/-- Update of every value in place, as a loop over references to the entries does. -/
def mapValues (map : OrdMap K V) (update : V → W) : OrdMap K W :=
  ⟨map.entries.map (fun entry => (entry.1, update entry.2)),
    List.pairwise_map.mpr map.ordered⟩

def size (map : OrdMap K V) : Nat := map.entries.length

def keys (map : OrdMap K V) : List K := map.entries.map (·.1)

theorem mem_entries_iff (map : OrdMap K V) (key : K) (value : V) :
    (key, value) ∈ map.entries ↔ map.find? key = some value :=
  (lookupEntries_eq_some key value map.entries map.ordered).symm

theorem mem_keys_iff (map : OrdMap K V) (key : K) :
    key ∈ map.keys ↔ (map.find? key).isSome := by
  constructor
  · intro member
    obtain ⟨entry, present, rfl⟩ := List.mem_map.mp member
    rw [(mem_entries_iff map entry.1 entry.2).mp present]
    rfl
  · intro present
    obtain ⟨value, found⟩ := Option.isSome_iff_exists.mp present
    exact List.mem_map.mpr ⟨(key, value), (mem_entries_iff map key value).mpr found, rfl⟩

@[simp] theorem find?_empty (key : K) : (empty : OrdMap K V).find? key = none := rfl

@[simp] theorem find?_insert_self (map : OrdMap K V) (key : K) (value : V) :
    (map.insert key value).find? key = some value :=
  lookupEntries_insert_self key value map.entries

theorem find?_insert_ne (map : OrdMap K V) (key other : K) (value : V) (different : other ≠ key) :
    (map.insert key value).find? other = map.find? other :=
  lookupEntries_insert_ne key other value map.entries different

theorem find?_insert (map : OrdMap K V) (key other : K) (value : V) :
    (map.insert key value).find? other = if other = key then some value else map.find? other := by
  by_cases same : other = key
  · simp [same]
  · simp [same, find?_insert_ne map key other value same]

theorem find?_emplace (map : OrdMap K V) (key other : K) (value : V) :
    (map.emplace key value).find? other =
      if other = key then some ((map.find? key).getD value) else map.find? other := by
  unfold emplace
  cases found : map.find? key with
  | none => simp [find?_insert]
  | some old =>
      by_cases same : other = key
      · simp [same, found]
      · simp [same]

theorem find?_modify (map : OrdMap K V) (key other : K) (update : V → V) :
    (map.modify key update).find? other =
      if other = key then (map.find? key).map update else map.find? other := by
  unfold modify
  cases found : map.find? key with
  | none =>
      by_cases same : other = key
      · simp [same, found]
      · simp [same]
  | some old => simp [find?_insert]

theorem find?_modify_ne (map : OrdMap K V) (key other : K) (update : V → V)
    (different : other ≠ key) : (map.modify key update).find? other = map.find? other := by
  simp [find?_modify, different]

/-- Updating distinct keys one after the other updates each of them once. -/
theorem find?_foldl_modify (update : V → V) (keys : List K) (distinct : keys.Nodup)
    (map : OrdMap K V) (wanted : K) :
    (keys.foldl (fun map key => map.modify key update) map).find? wanted =
      if wanted ∈ keys then (map.find? wanted).map update else map.find? wanted := by
  induction keys generalizing map with
  | nil => simp
  | cons key rest ih =>
      rw [List.nodup_cons] at distinct
      rw [List.foldl_cons, ih distinct.2, find?_modify]
      by_cases same : wanted = key
      · subst same
        simp [distinct.1]
      · simp [same]

theorem find?_erase (map : OrdMap K V) (key other : K) :
    (map.erase key).find? other = if other = key then none else map.find? other := by
  split
  · rename_i same
    subst same
    refine (lookupEntries_eq_none other _).mpr ?_
    intro entry member
    simpa using (List.mem_filter.mp member).2
  · rename_i different
    cases found : map.find? other with
    | none =>
        refine (lookupEntries_eq_none other _).mpr ?_
        intro entry member
        exact (lookupEntries_eq_none other _).mp found entry (List.mem_filter.mp member).1
    | some value =>
        rw [← mem_entries_iff]
        exact List.mem_filter.mpr ⟨(mem_entries_iff map other value).mpr found, by simpa using different⟩

@[simp] theorem find?_mapValues (map : OrdMap K V) (update : V → W) (key : K) :
    (map.mapValues update).find? key = (map.find? key).map update := by
  change lookupEntries key (map.entries.map _) = (lookupEntries key map.entries).map update
  induction map.entries with
  | nil => rfl
  | cons head rest ih =>
      by_cases hit : head.1 = key
      · simp [lookupEntries, hit]
      · simp only [List.map_cons, lookupEntries, hit, ↓reduceIte]
        exact ih

@[simp] theorem keys_mapValues (map : OrdMap K V) (update : V → W) :
    (map.mapValues update).keys = map.keys := by
  simp [keys, mapValues, Function.comp_def]

theorem keys_ordered (map : OrdMap K V) : map.keys.Pairwise (· < ·) :=
  List.pairwise_map.mpr map.ordered

theorem keys_nodup (map : OrdMap K V) : map.keys.Nodup :=
  map.keys_ordered.imp ne_of_lt

/-- Maps are determined by their lookups. -/
theorem ext_find? {left right : OrdMap K V} (same : ∀ key, left.find? key = right.find? key) :
    left = right := by
  have leftNodup : left.entries.Nodup :=
    left.ordered.imp fun below equal => absurd below (by simp [equal])
  have rightNodup : right.entries.Nodup :=
    right.ordered.imp fun below equal => absurd below (by simp [equal])
  have members : ∀ entry, entry ∈ left.entries ↔ entry ∈ right.entries := by
    intro entry
    rw [mem_entries_iff left entry.1 entry.2, mem_entries_iff right entry.1 entry.2, same]
  have entries : left.entries = right.entries :=
    List.Perm.eq_of_pairwise (fun _ _ _ _ below above => absurd below (lt_asymm above))
      left.ordered right.ordered ((List.perm_ext_iff_of_nodup leftNodup rightNodup).mpr members)
  cases left
  cases right
  simpa using entries

/-- Maps of the same keys are of the same size. -/
theorem size_eq_of_keys {left : OrdMap K V} {right : OrdMap K W}
    (same : ∀ key, (left.find? key).isSome = (right.find? key).isSome) : left.size = right.size := by
  have perm : left.keys.Perm right.keys := by
    refine (List.perm_ext_iff_of_nodup left.keys_nodup right.keys_nodup).2 fun key => ?_
    rw [mem_keys_iff, mem_keys_iff, same]
  have lengths := perm.length_eq
  unfold keys at lengths
  rw [List.length_map, List.length_map] at lengths
  exact lengths

theorem insertEntries_append (key : K) (value : V) (entries : List (K × V))
    (below : ∀ entry ∈ entries, entry.1 < key) :
    insertEntries key value entries = entries ++ [(key, value)] := by
  induction entries with
  | nil => rfl
  | cons head rest ih =>
      have first : head.1 < key := below head List.mem_cons_self
      have later : ∀ entry ∈ rest, entry.1 < key := fun entry member =>
        below entry (List.mem_cons_of_mem _ member)
      rw [insertEntries, if_neg (lt_asymm first), if_neg (ne_of_gt first), ih later]
      rfl

/-- Emplacing items in increasing key order lists them as they come. -/
theorem entries_foldl_emplace {α : Type} (key : α → K) (value : α → V) (items : List α)
    (map : OrdMap K V) (strict : items.Pairwise (fun first second => key first < key second))
    (above : ∀ entry ∈ map.entries, ∀ item ∈ items, entry.1 < key item) :
    (items.foldl (fun map item => map.emplace (key item) (value item)) map).entries =
      map.entries ++ items.map (fun item => (key item, value item)) := by
  induction items generalizing map with
  | nil => simp
  | cons item rest ih =>
      obtain ⟨least, tail⟩ := List.pairwise_cons.mp strict
      have below : ∀ entry ∈ map.entries, entry.1 < key item := fun entry member =>
        above entry member item List.mem_cons_self
      have absent : map.find? (key item) = none :=
        (lookupEntries_eq_none _ _).mpr fun entry member => ne_of_lt (below entry member)
      have appended : (map.emplace (key item) (value item)).entries =
          map.entries ++ [(key item, value item)] := by
        simp only [emplace, absent, Option.isSome_none, Bool.false_eq_true, ↓reduceIte]
        exact insertEntries_append _ _ _ below
      have next : ∀ entry ∈ (map.emplace (key item) (value item)).entries,
          ∀ other ∈ rest, entry.1 < key other := by
        intro entry member other later
        rw [appended, List.mem_append, List.mem_singleton] at member
        rcases member with old | rfl
        · exact above entry old other (List.mem_cons_of_mem _ later)
        · exact least other later
      rw [List.foldl_cons, ih _ tail next, appended, List.map_cons, List.append_assoc]
      rfl

/-- The map a loop of `emplace` builds from keyed items finds exactly those items. -/
theorem find?_foldl_emplace {α : Type} (key : α → K) (value : α → V) (items : List α)
    (strict : items.Pairwise (fun first second => key first < key second)) (wanted : K)
    (found : V) :
    (items.foldl (fun map item => map.emplace (key item) (value item)) empty).find? wanted =
        some found ↔ ∃ item ∈ items, key item = wanted ∧ value item = found := by
  rw [← mem_entries_iff, entries_foldl_emplace key value items empty strict (by simp [empty])]
  simp only [empty, List.nil_append, List.mem_map, Prod.mk.injEq]

/-- What a loop of insertions holds was there before, or is one of the items. -/
theorem find?_foldl_insert {α : Type} (key : α → K) (value : α → V) (items : List α)
    {map : OrdMap K V} {wanted : K}
    {found : V} (held :
      (items.foldl (fun map item => map.insert (key item) (value item)) map).find? wanted =
      some found) : map.find? wanted = some found ∨ ∃ item ∈ items, key item = wanted ∧
        value item = found := by
  induction items generalizing map with
  | nil => exact Or.inl held
  | cons item rest ih =>
      rcases ih held with before | ⟨other, member, same⟩
      · rw [find?_insert] at before
        split at before
        · rename_i hit
          exact Or.inr ⟨item, List.mem_cons_self, hit.symm, Option.some.inj before⟩
        · exact Or.inl before
      · exact Or.inr ⟨other, List.mem_cons_of_mem _ member, same⟩

/-! Sums over the entries. Every accounting argument about a map of amounts is an
argument about `total`: what one write to the map does to it. -/

def total (measure : K → V → Int) (map : OrdMap K V) : Int :=
  (map.entries.map (fun entry => measure entry.1 entry.2)).sum

private theorem sum_insertEntries (measure : K → V → Int) (key : K) (value : V)
    (entries : List (K × V))
    (ordered : entries.Pairwise (fun first second => first.1 < second.1)) :
    ((insertEntries key value entries).map (fun entry => measure entry.1 entry.2)).sum =
      (entries.map (fun entry => measure entry.1 entry.2)).sum + measure key value -
        (lookupEntries key entries).elim 0 (measure key) := by
  induction entries with
  | nil => simp [insertEntries, lookupEntries]
  | cons head rest ih =>
      obtain ⟨above, tail⟩ := List.pairwise_cons.mp ordered
      unfold insertEntries
      split
      · rename_i below
        have absent : lookupEntries key (head :: rest) = none := by
          refine (lookupEntries_eq_none key _).mpr ?_
          intro entry member
          rcases List.mem_cons.mp member with rfl | later
          · exact ne_of_gt below
          · exact ne_of_gt (below.trans (above entry later))
        simp only [List.map_cons, List.sum_cons, absent, Option.elim_none]
        omega
      · split
        · rename_i same
          subst same
          simp only [List.map_cons, List.sum_cons, lookupEntries, ↓reduceIte, Option.elim_some]
          omega
        · rename_i different
          have skip : head.1 ≠ key := Ne.symm different
          simp only [List.map_cons, List.sum_cons, lookupEntries, skip, ↓reduceIte, ih tail]
          omega

/-- One write moves the total by the new value's measure less the old one's. -/
theorem total_insert (measure : K → V → Int) (map : OrdMap K V) (key : K) (value : V) :
    total measure (map.insert key value) =
      total measure map + measure key value - (map.find? key).elim 0 (measure key) :=
  sum_insertEntries measure key value map.entries map.ordered

theorem total_modify (measure : K → V → Int) (map : OrdMap K V) (key : K) (update : V → V)
    (value : V) (present : map.find? key = some value) :
    total measure (map.modify key update) =
      total measure map + measure key (update value) - measure key value := by
  simp only [modify, present, total_insert, Option.elim_some]

theorem total_erase (measure : K → V → Int) (map : OrdMap K V) (key : K) :
    total measure (map.erase key) = total measure map - (map.find? key).elim 0 (measure key) := by
  have split : ∀ entries : List (K × V),
      entries.Pairwise (fun first second => first.1 < second.1) →
      ((entries.filter (fun entry => entry.1 ≠ key)).map
        (fun entry => measure entry.1 entry.2)).sum =
        (entries.map (fun entry => measure entry.1 entry.2)).sum -
          (lookupEntries key entries).elim 0 (measure key) := by
    intro entries ordered
    induction entries with
    | nil => simp [lookupEntries]
    | cons head rest ih =>
        obtain ⟨above, tail⟩ := List.pairwise_cons.mp ordered
        by_cases hit : head.1 = key
        · have kept : rest.filter (fun entry => entry.1 ≠ key) = rest := by
            refine List.filter_eq_self.mpr ?_
            intro entry later
            simpa using ne_of_gt (hit ▸ above entry later)
          subst hit
          simp only [ne_eq, not_true_eq_false, decide_false, Bool.false_eq_true,
            not_false_eq_true, List.filter_cons_of_neg, List.map_cons, List.sum_cons,
            lookupEntries, ↓reduceIte, Option.elim_some]
          rw [show (fun entry : K × V => decide ¬entry.1 = head.1) =
            (fun entry => decide (entry.1 ≠ head.1)) from rfl, kept]
          omega
        · simp only [ne_eq, hit, not_false_eq_true, decide_true, List.filter_cons_of_pos,
            List.map_cons, List.sum_cons, lookupEntries, ↓reduceIte]
          have rest := ih tail
          simp only [ne_eq] at rest
          omega
  exact split map.entries map.ordered

theorem total_congr {left right : K → V → Int} (map : OrdMap K V)
    (same : ∀ key value, map.find? key = some value → left key value = right key value) :
    total left map = total right map := by
  unfold total
  congr 1
  refine List.map_congr_left ?_
  intro entry member
  exact same entry.1 entry.2 ((mem_entries_iff map entry.1 entry.2).mp member)

/-- Of a measure that counts one key only, the entry of that key is left. -/
theorem total_key (map : OrdMap K Int) (key : K) :
    total (fun other amount => if other = key then amount else 0) map = (map.find? key).getD 0 := by
  unfold total
  cases found : map.find? key with
  | none =>
      refine sum_map_eq_zero _ _ fun entry member => if_neg fun same => ?_
      have held := (mem_entries_iff map entry.1 entry.2).mp member
      rw [same, found] at held
      cases held
  | some amount =>
      have member := (mem_entries_iff map key amount).mpr found
      exact sum_map_of_key Prod.fst Prod.snd map.entries map.keys_nodup (key, amount) member

/-- The total taken along a list of distinct keys that leaves none out. -/
theorem total_eq_sum (measure : K → V → Int) (map : OrdMap K V) {listed : List K} (distinct : listed.Nodup)
    (covers : ∀ key ∈ map.keys, key ∈ listed) :
    total measure map = (listed.map fun key => (map.find? key).elim 0 (measure key)).sum := by
  have held : (listed.filter fun key => decide (key ∈ map.keys)).Perm map.keys := by
    refine (List.perm_ext_iff_of_nodup (distinct.filter _) map.keys_nodup).mpr fun key => ?_
    rw [List.mem_filter, decide_eq_true_eq]
    exact and_iff_right_of_imp (covers key)
  have own : total measure map = (map.keys.map fun key => (map.find? key).elim 0 (measure key)).sum := by
    unfold total keys
    rw [List.map_map]
    apply congrArg List.sum
    apply List.map_congr_left
    intro entry member
    simp [(mem_entries_iff map entry.1 entry.2).mp member]
  rw [own, ← (held.map _).sum_eq, sum_map_filter]
  apply congrArg List.sum
  apply List.map_congr_left
  intro key _
  split
  · rfl
  · rename_i absent
    rw [decide_eq_true_eq, mem_keys_iff, Option.not_isSome_iff_eq_none] at absent
    rw [absent, Option.elim_none]

theorem total_nonneg (measure : K → V → Int) (map : OrdMap K V)
    (nonneg : ∀ key value, map.find? key = some value → 0 ≤ measure key value) :
    0 ≤ total measure map := by
  refine List.sum_nonneg ?_
  intro amount member
  obtain ⟨entry, present, rfl⟩ := List.mem_map.mp member
  exact nonneg entry.1 entry.2 ((mem_entries_iff map entry.1 entry.2).mp present)

/-- A non-negative total dominates each of its parts. -/
theorem le_total (measure : K → V → Int) (map : OrdMap K V)
    (nonneg : ∀ key value, map.find? key = some value → 0 ≤ measure key value)
    (key : K) (value : V) (present : map.find? key = some value) :
    measure key value ≤ total measure map := by
  refine List.single_le_sum ?_ _ ?_
  · intro amount member
    obtain ⟨entry, inside, rfl⟩ := List.mem_map.mp member
    exact nonneg entry.1 entry.2 ((mem_entries_iff map entry.1 entry.2).mp inside)
  · exact List.mem_map.mpr ⟨(key, value), (mem_entries_iff map key value).mpr present, rfl⟩

/-- Insertions add no more than what they insert. -/
theorem total_foldl_insert_le {α : Type} {measure : K → V → Int}
    (nonneg : ∀ key value, 0 ≤ measure key value)
    (key : α → K) (value : α → V) (items : List α) (map : OrdMap K V) :
    total measure (items.foldl (fun map item => map.insert (key item) (value item)) map) ≤
      total measure map + (items.map fun item => measure (key item) (value item)).sum := by
  induction items generalizing map with
  | nil => simp
  | cons item rest ih =>
      have tail := ih (map.insert (key item) (value item))
      have step := total_insert measure map (key item) (value item)
      have replaced : 0 ≤ (map.find? (key item)).elim 0 (measure (key item)) := by
        cases map.find? (key item) with
        | none => exact le_refl 0
        | some old => exact nonneg _ _
      rw [List.foldl_cons, List.map_cons, List.sum_cons]
      omega

theorem total_eq_zero (measure : K → V → Int) (map : OrdMap K V)
    (zero : ∀ key value, map.find? key = some value → measure key value = 0) :
    total measure map = 0 := by
  have constant : total measure map = total (fun _ _ => 0) map := total_congr map zero
  rw [constant]
  simp [total]

end OrdMap

end TrafficFabric
