import Mathlib.Data.Finset.Card
import TrafficFabric.Explain
import TrafficFabric.FloorReports

set_option autoImplicit false

/- What an explanation leaves out. Binding constraints are bounded twice, by the solver and by the loop over
the demands' notes, and only that loop counts. Nothing here depends on the order that a sort gives to
constraints of one key. -/
namespace TrafficFabric

/-! Groups that add to what was seen before. -/

section Groups

variable {α : Type}

/-- What does not fit of each group, where the groups fill the room one after the other. -/
def beyond : Nat → List (List α) → List (List α)
  | _, [] => []
  | room, group :: rest => group.drop room :: beyond (room - group.length) rest

theorem beyond_flatten (room : Nat) (groups : List (List α)) :
    (beyond room groups).flatten = groups.flatten.drop room := by
  induction groups generalizing room with
  | nil => simp [beyond]
  | cons group rest ih => rw [beyond, List.flatten_cons, List.flatten_cons, List.drop_append, ih]

variable [DecidableEq α]

/-- Each group, with the number of values that neither were seen before nor came with an earlier group. -/
def additions : Finset α → List (List α) → List (List α × Nat)
  | _, [] => []
  | seen, group :: rest => (group, (group.toFinset \ seen).card) :: additions (seen ∪ group.toFinset) rest

/-- Together the groups add every value that was not seen. -/
theorem additions_sum (seen : Finset α) (groups : List (List α)) :
    ((additions seen groups).map Prod.snd).sum = (groups.flatten.toFinset \ seen).card := by
  induction groups generalizing seen with
  | nil => simp [additions]
  | cons group rest ih =>
      have split : (group ++ rest.flatten).toFinset \ seen =
          (group.toFinset \ seen) ∪ (rest.flatten.toFinset \ (seen ∪ group.toFinset)) := by
        ext value
        simp only [List.toFinset_append, Finset.mem_sdiff, Finset.mem_union, List.mem_toFinset]
        tauto
      have apart : Disjoint (group.toFinset \ seen) (rest.flatten.toFinset \ (seen ∪ group.toFinset)) := by
        rw [Finset.disjoint_left]
        intro value first second
        simp only [Finset.mem_sdiff, Finset.mem_union, List.mem_toFinset] at first second
        exact second.2 (Or.inr first.1)
      rw [additions, List.map_cons, List.sum_cons, ih, List.flatten_cons, split,
        Finset.card_union_of_disjoint apart]

/-- Where every group that is not empty adds one value, as many values are added as groups are not empty. -/
theorem length_nonempty_eq (seen : Finset α) (groups : List (List α))
    (one : ∀ cut ∈ additions seen groups, cut.1 = [] ∨ cut.2 = 1) :
    (groups.filter fun group => !group.isEmpty).length = (groups.flatten.toFinset \ seen).card := by
  rw [← additions_sum]
  induction groups generalizing seen with
  | nil => rfl
  | cons group rest ih =>
      rw [additions] at one ⊢
      obtain ⟨here, later⟩ := List.forall_mem_cons.mp one
      rw [List.map_cons, List.sum_cons, ← ih _ later, List.filter_cons]
      rcases here with empty | one
      · dsimp only at empty
        subst empty
        simp
      · have full : group ≠ [] := by
          rintro rfl
          simp at one
        dsimp only at one
        rw [one, if_pos (by simpa using full), List.length_cons, Nat.add_comm]

/-- Where no group is empty in vain, at least as many values are added, and just as many only one by one. -/
theorem length_nonempty_le (seen : Finset α) (groups : List (List α))
    (adds : ∀ cut ∈ additions seen groups, cut.1 = [] ∨ cut.2 ≠ 0) :
    (groups.filter fun group => !group.isEmpty).length ≤ (groups.flatten.toFinset \ seen).card ∧
      ((groups.filter fun group => !group.isEmpty).length = (groups.flatten.toFinset \ seen).card →
        ∀ cut ∈ additions seen groups, cut.1 = [] ∨ cut.2 = 1) := by
  rw [← additions_sum]
  induction groups generalizing seen with
  | nil => exact ⟨le_refl _, fun _ _ listed => absurd listed List.not_mem_nil⟩
  | cons group rest ih =>
      rw [additions] at adds ⊢
      obtain ⟨here, later⟩ := List.forall_mem_cons.mp adds
      obtain ⟨below, one⟩ := ih _ later
      rw [List.map_cons, List.sum_cons, List.filter_cons]
      dsimp only at here ⊢
      by_cases empty : group = []
      · subst empty
        simp only [List.isEmpty_nil, Bool.not_true, Bool.false_eq_true, if_false, List.toFinset_nil,
          Finset.empty_sdiff, Finset.card_empty, Nat.zero_add]
        exact ⟨below, fun same => List.forall_mem_cons.mpr ⟨Or.inl rfl, one same⟩⟩
      · have positive := here.resolve_left empty
        rw [if_pos (by simpa using empty), List.length_cons]
        refine ⟨by omega, fun same => List.forall_mem_cons.mpr ⟨Or.inr ?_, one ?_⟩⟩
        · dsimp only
          omega
        · omega

/-- Of two single values the first takes the room, and the second, where it is new, is added alone. -/
theorem additions_second {listed : List α} {first second : α} (other : second ≠ first)
    (fresh : second ∉ listed) :
    ∀ cut ∈ additions (listed ++ [[first], [second]].flatten.take 1).toFinset
      (beyond 1 [[first], [second]]),
      cut.1 = [] ∨ cut.2 = 1 := by
  have lost : [second].toFinset \ ((listed ++ [first]).toFinset ∪ [].toFinset) = {second} := by
    ext value
    simp only [Finset.mem_sdiff, Finset.mem_union, List.mem_toFinset, List.mem_append, List.mem_singleton,
      List.not_mem_nil, or_false, Finset.mem_singleton]
    constructor
    · exact fun both => both.1
    · rintro rfl
      exact ⟨rfl, fun earlier => earlier.elim fresh other⟩
  intro cut listed
  simp only [beyond, List.flatten_cons, List.flatten_nil, List.cons_append, List.nil_append,
    List.take_succ_cons,
    List.take_zero, List.drop_succ_cons, List.drop_nil, List.length_cons, List.length_nil,
      Nat.zero_add, Nat.sub_self,
    List.drop_zero, additions, List.mem_cons, List.not_mem_nil, or_false] at listed
  rcases listed with rfl | rfl
  · exact Or.inl rfl
  · right
    dsimp only
    rw [lost, Finset.card_singleton]

end Groups

/-! The notes of the derivation. -/

def derivedNotes (snapshot : FabricSnapshot) : List (List BindingConstraint) :=
  match derive snapshot with
  | .error _ => []
  | .ok derived => derived.demands.map DemandDerivation.notes

def derivedExclusions (snapshot : FabricSnapshot) : List Text :=
  match derive snapshot with
  | .error _ => []
  | .ok derived => derived.policyExclusions

/-- The number of demands with a note beyond the room. -/
def demandsCut : Nat → List (List BindingConstraint) → Nat
  | _, [] => 0
  | room, notes :: rest =>
      (if notes.length ≤ room then 0 else 1) + demandsCut (room - notes.length) rest

theorem demandsCut_eq_zero (room : Nat) (groups : List (List BindingConstraint)) :
    demandsCut room groups = 0 ↔ groups.flatten.length ≤ room := by
  induction groups generalizing room with
  | nil => simp [demandsCut]
  | cons notes rest ih =>
      rw [demandsCut, List.flatten_cons, List.length_append, Nat.add_eq_zero_iff, ih]
      by_cases fits : notes.length ≤ room
      · rw [if_pos fits]
        omega
      · rw [if_neg fits]
        omega

/-- The demands that are cut are those with something beyond the room. -/
theorem demandsCut_eq (room : Nat) (groups : List (List BindingConstraint)) :
    demandsCut room groups = ((beyond room groups).filter fun cut => !cut.isEmpty).length := by
  induction groups generalizing room with
  | nil => rfl
  | cons notes rest ih =>
      rw [demandsCut, beyond, List.filter_cons, ih]
      by_cases fits : notes.length ≤ room
      · have none : notes.drop room = [] := List.drop_of_length_le fits
        rw [if_pos fits, none, Nat.zero_add]
        rfl
      · have some : (!(notes.drop room).isEmpty) = true := by
          rw [Bool.not_eq_true', List.isEmpty_eq_false_iff, Ne, List.drop_eq_nil_iff]
          exact fits
        rw [if_neg fits, if_pos some, List.length_cons, Nat.add_comm]

/-- The loop over the demands fills the room with their notes and counts the demands that are cut. -/
theorem foldl_addNotes (groups : List (List BindingConstraint)) (scan : NoteScan) (room : Nat)
    (left : scan.constraints.length + room = Limits.maxExplanationEntries) :
    groups.foldl addNotes scan =
      { constraints := scan.constraints ++ groups.flatten.take room
        truncated := scan.truncated || decide (room < groups.flatten.length)
        omitted := scan.omitted + demandsCut room groups } := by
  induction groups generalizing scan room with
  | nil => simp [demandsCut]
  | cons notes rest ih =>
      have free : Limits.maxExplanationEntries - scan.constraints.length = room := by omega
      rw [List.foldl_cons, List.flatten_cons, demandsCut, List.length_append, List.take_append]
      by_cases fits : notes.length ≤ room
      · have step : addNotes scan notes = { scan with constraints := scan.constraints ++ notes } := by
          unfold addNotes
          rw [free, if_pos fits]
        rw [step, if_pos fits, ih _ (room - notes.length) (by
          rw [List.length_append]
          omega)]
        have same : decide (room - notes.length < rest.flatten.length) =
            decide (room < notes.length + rest.flatten.length) := by
          rw [decide_eq_decide]
          omega
        rw [same, List.take_of_length_le fits, List.append_assoc, Nat.zero_add]
      · -- The room is used up, and what follows finds none.
        have step : addNotes scan notes =
            { constraints := scan.constraints ++ notes.take room
              truncated := true
              omitted := scan.omitted + 1 } := by
          unfold addNotes
          rw [free, if_neg fits]
        have full : (notes.take room).length = room := List.length_take_of_le (by omega)
        have none : room - notes.length = 0 := by omega
        rw [step, if_neg fits, none, ih _ 0 (by
          rw [List.length_append, full]
          omega)]
        simp only [List.take_zero, List.append_nil, Bool.true_or]
        have cut : decide (room < notes.length + rest.flatten.length) = true := by
          rw [decide_eq_true_eq]
          omega
        rw [cut, Bool.or_true, Nat.add_assoc]

/-! The bound of the solver, whatever the sort. -/

section Bounds

variable (sort : List BindingConstraint → List BindingConstraint)

theorem canonicalizeBindings_length (found : FeasibilityResult) :
    (found.canonicalizeBindingsBy sort).binding.length ≤ Limits.maxExplanationEntries := by
  unfold FeasibilityResult.canonicalizeBindingsBy
  dsimp only
  split
  · exact List.length_take_le _ _
  · rename_i short
    exact Nat.le_of_not_lt short

/-- The room that the bound constraints leave to the notes. -/
def roomForNotes (found : FeasibilityResult) : Nat :=
  Limits.maxExplanationEntries - (found.canonicalizeBindingsBy sort).binding.length

/-- The constraints that get into the explanation: the bound ones, and the notes up to the room. -/
def keptConstraints (found : FeasibilityResult) (notes : List BindingConstraint) : List BindingConstraint :=
  (found.canonicalizeBindingsBy sort).binding ++ notes.take (roomForNotes sort found)

/-- The notes of the explanation before they are bounded. -/
def notesOf (plan : Plan) (snapshot : FabricSnapshot) : List Text :=
  churnNotes plan.churn ++ lineageNotes plan ++ statusNotes plan ++ derivedExclusions snapshot

/-- The plan with a feasibility result as the solver found it, bounded as the solver bounds it. -/
def Plan.withFinding (plan : Plan) (found : FeasibilityResult) : Plan :=
  { plan with feasibility := found.canonicalizeBindingsBy sort }

/-- What the builder makes of the constraints. -/
structure Scanned (found : FeasibilityResult) (plan : Plan) (snapshot : FabricSnapshot)
    (explanation : Explanation) : Prop where
  constraints : ∀ constraint, constraint ∈ explanation.bindingConstraints ↔
    constraint ∈ keptConstraints sort found (derivedNotes snapshot).flatten
  omitted : explanation.omittedBindingConstraints =
    demandsCut (roomForNotes sort found) (derivedNotes snapshot)
  truncated : explanation.truncated = true ↔ Limits.maxExplanationEntries < plan.allocation.demands.length ∨
    roomForNotes sort found < (derivedNotes snapshot).flatten.length ∨
    Limits.maxAlternatives < plan.alternatives.length ∨
    Limits.maxExplanationEntries < (notesOf plan snapshot).length
  notes : explanation.notes = (notesOf plan snapshot).take Limits.maxExplanationEntries

variable {sort} (sorts : SortsConstraints sort)

include sorts

theorem SortsConstraints.length_le (constraints : List BindingConstraint) :
    (sortConstraintsBy sort constraints).length ≤ constraints.length := by
  have sorted := (sorts.perm constraints).length_eq
  have merged := (List.destutter_sublist (· ≠ ·) (sort constraints)).length_le
  unfold sortConstraintsBy
  omega

/-- The notes never fill more than the room, so the bound on the merged constraints cuts nothing. -/
theorem explainDerivation_eq (derived : Derivation) (explanation : Explanation) {room : Nat}
    (left : explanation.bindingConstraints.length + room = Limits.maxExplanationEntries) :
    explainDerivation sort derived explanation =
      { explanation with
        policyExclusions := derived.policyExclusions
        bindingConstraints := sortConstraintsBy sort (explanation.bindingConstraints ++
          (derived.demands.map DemandDerivation.notes).flatten.take room)
        truncated := explanation.truncated ||
          decide (room < (derived.demands.map DemandDerivation.notes).flatten.length)
        omittedBindingConstraints := explanation.omittedBindingConstraints +
          demandsCut room (derived.demands.map DemandDerivation.notes) } := by
  have filled : (explanation.bindingConstraints ++
      (derived.demands.map DemandDerivation.notes).flatten.take room).length ≤
        Limits.maxExplanationEntries := by
    rw [List.length_append, List.length_take]
    omega
  have merged := sorts.length_le (explanation.bindingConstraints ++
    (derived.demands.map DemandDerivation.notes).flatten.take room)
  have uncut : decide (Limits.maxExplanationEntries <
      (sortConstraintsBy sort (explanation.bindingConstraints ++
        (derived.demands.map DemandDerivation.notes).flatten.take room)).length) = false := by
    rw [decide_eq_false_iff_not]
    omega
  unfold explainDerivation
  rw [foldl_addNotes _ _ _ left]
  dsimp only
  rw [List.take_of_length_le (by omega), uncut, Bool.or_false]

theorem buildExplanation_scanned (found : FeasibilityResult) (plan : Plan) (snapshot : FabricSnapshot) :
    Scanned sort found (plan.withFinding sort found) snapshot
      (buildExplanationBy sort (plan.withFinding sort found) snapshot) := by
  have bound := canonicalizeBindings_length sort found
  have short : (found.canonicalizeBindingsBy sort).binding.take Limits.maxExplanationEntries =
      (found.canonicalizeBindingsBy sort).binding := List.take_of_length_le bound
  have room : ((found.canonicalizeBindingsBy sort).binding.take Limits.maxExplanationEntries).length +
      roomForNotes sort found = Limits.maxExplanationEntries := by
    rw [short]
    unfold roomForNotes
    omega
  have counted :
      (plan.withFinding sort found).feasibility.binding.length - Limits.maxExplanationEntries = 0 := by
    change (found.canonicalizeBindingsBy sort).binding.length - _ = 0
    omega
  have uncut : ¬ Limits.maxExplanationEntries <
      (plan.withFinding sort found).feasibility.binding.length := by
    change ¬ _ < (found.canonicalizeBindingsBy sort).binding.length
    omega
  cases derives : derive snapshot with
  | error reason =>
      have silent : derivedNotes snapshot = [] := by
        unfold derivedNotes
        rw [derives]
      have kept : keptConstraints sort found (derivedNotes snapshot).flatten =
          (found.canonicalizeBindingsBy sort).binding := by
        unfold keptConstraints
        rw [silent, List.flatten_nil, List.take_nil, List.append_nil]
      unfold buildExplanationBy
      rw [derives]
      dsimp only
      refine ⟨?_, ?_, ?_, ?_⟩
      · intro constraint
        change constraint ∈
          (found.canonicalizeBindingsBy sort).binding.take Limits.maxExplanationEntries ↔ _
        rw [short, kept]
      · rw [silent]
        exact counted
      · unfold notesOf derivedExclusions
        rw [derives, silent]
        simp only [uncut, Bool.or_eq_true, decide_eq_true_eq, List.flatten_nil,
          List.length_nil, Nat.not_lt_zero,
          false_or, or_assoc]
      · unfold notesOf derivedExclusions
        rw [derives]
  | ok derived =>
      have told : derivedNotes snapshot = derived.demands.map DemandDerivation.notes := by
        unfold derivedNotes
        rw [derives]
      unfold buildExplanationBy
      rw [derives]
      dsimp only
      rw [explainDerivation_eq sorts _ _ room]
      dsimp only
      refine ⟨?_, ?_, ?_, ?_⟩
      · intro constraint
        rw [sorts.mem, told]
        change constraint ∈
          (found.canonicalizeBindingsBy sort).binding.take Limits.maxExplanationEntries ++ _ ↔ _
        rw [short]
        rfl
      · rw [counted, told, Nat.zero_add]
      · unfold notesOf derivedExclusions
        rw [derives, told]
        simp only [uncut, Bool.or_eq_true, decide_eq_true_eq, false_or, or_assoc]
      · unfold notesOf derivedExclusions
        rw [derives]

end Bounds

/-! What the explanation declares. -/

/-- The shown items begin the list, and the number of the others is told. -/
def Counts {α : Type} (items shown : List α) (omitted : Nat) : Prop :=
  ∃ rest, items = shown ++ rest ∧ omitted = rest.length

theorem counts_take {α : Type} (items : List α) (bound : Nat) :
    Counts items (items.take bound) (items.length - bound) :=
  ⟨items.drop bound, (List.take_append_drop bound items).symm, List.length_drop.symm⟩

theorem take_ne_iff {α : Type} (items : List α) (bound : Nat) :
    items.take bound ≠ items ↔ bound < items.length := by
  rw [Ne, List.take_eq_self_iff]
  omega

/-- The different constraints, of the solver or of the notes, that the explanation does not list. -/
def constraintsLeftOut (found : FeasibilityResult) (snapshot : FabricSnapshot) (explanation : Explanation) :
    Finset BindingConstraint :=
  (found.binding ++ (derivedNotes snapshot).flatten).toFinset \ explanation.bindingConstraints.toFinset

/-- The flag is set exactly when something is left out, and the counters say how much. -/
structure DeclaresTruncation (found : FeasibilityResult) (plan : Plan) (snapshot : FabricSnapshot)
    (explanation : Explanation) : Prop where
  truncated : explanation.truncated = true ↔
    (constraintsLeftOut found snapshot explanation).Nonempty ∨
      explanation.allocations ≠ plan.allocation.demands ∨
      explanation.alternatives ≠ plan.alternatives ∨
      explanation.notes ≠ notesOf plan snapshot
  constraints : explanation.omittedBindingConstraints = (constraintsLeftOut found snapshot explanation).card
  allocations : Counts plan.allocation.demands explanation.allocations explanation.omittedAllocations
  alternatives : Counts plan.alternatives explanation.alternatives explanation.omittedAlternatives

section Declared

variable (sort : List BindingConstraint → List BindingConstraint)

/-- What does not fit of the demands' notes, demand after demand, each with the number of constraints that
neither the explanation lists nor an earlier demand has lost. -/
def notesCut (found : FeasibilityResult) (snapshot : FabricSnapshot) :
    List (List BindingConstraint × Nat) :=
  additions (keptConstraints sort found (derivedNotes snapshot).flatten).toFinset
    (beyond (roomForNotes sort found) (derivedNotes snapshot))

/-- The solver drops nothing that is not listed or noted, and each demand that is cut loses one constraint.
-/
structure CutsSingly (found : FeasibilityResult) (snapshot : FabricSnapshot) : Prop where
  solver : ∀ constraint ∈ found.binding,
    constraint ∈ keptConstraints sort found (derivedNotes snapshot).flatten ∨
      constraint ∈ (derivedNotes snapshot).flatten
  demands : ∀ cut ∈ notesCut sort found snapshot, cut.1 = [] ∨ cut.2 = 1

/-- The notes that a demand loses are all listed, or lost by an earlier demand, and yet it is counted. -/
def CutsRepeat (found : FeasibilityResult) (snapshot : FabricSnapshot) : Prop :=
  ∃ cut ∈ notesCut sort found snapshot, cut.1 ≠ [] ∧ cut.2 = 0

/-- The different constraints beyond the bound of the solver or the room for the notes, without those that
are kept elsewhere. -/
def constraintsCut (found : FeasibilityResult) (notes : List BindingConstraint) :
    Finset BindingConstraint :=
  (found.binding ++ notes).toFinset \ (keptConstraints sort found notes).toFinset

/-- The part of the cut that comes from the notes. -/
def notesLost (found : FeasibilityResult) (notes : List BindingConstraint) : Finset BindingConstraint :=
  (notes.drop (roomForNotes sort found)).toFinset \ (keptConstraints sort found notes).toFinset

theorem buildExplanation_lists (plan : Plan) (snapshot : FabricSnapshot) :
    (buildExplanationBy sort plan snapshot).allocations =
        plan.allocation.demands.take Limits.maxExplanationEntries ∧
      (buildExplanationBy sort plan snapshot).omittedAllocations =
        plan.allocation.demands.length - Limits.maxExplanationEntries ∧
      (buildExplanationBy sort plan snapshot).alternatives = plan.alternatives.take Limits.maxAlternatives ∧
      (buildExplanationBy sort plan snapshot).omittedAlternatives =
        plan.alternatives.length - Limits.maxAlternatives := by
  unfold buildExplanationBy
  cases derive snapshot with
  | error reason => exact ⟨rfl, rfl, rfl, rfl⟩
  | ok derived => exact ⟨rfl, rfl, rfl, rfl⟩

theorem mem_notesLost (found : FeasibilityResult) (notes : List BindingConstraint)
    (constraint : BindingConstraint) :
    constraint ∈ notesLost sort found notes ↔
      constraint ∈ notes ∧ constraint ∉ keptConstraints sort found notes := by
  unfold notesLost
  rw [Finset.mem_sdiff, List.mem_toFinset, List.mem_toFinset]
  constructor
  · intro lost
    exact ⟨List.mem_of_mem_drop lost.1, lost.2⟩
  · rintro ⟨noted, unlisted⟩
    refine ⟨?_, unlisted⟩
    rw [← List.take_append_drop (roomForNotes sort found) notes, List.mem_append] at noted
    exact noted.resolve_left fun taken => unlisted (List.mem_append_right _ taken)

theorem notesLost_subset (found : FeasibilityResult) (notes : List BindingConstraint) :
    notesLost sort found notes ⊆ constraintsCut sort found notes := by
  intro constraint lost
  rw [mem_notesLost] at lost
  unfold constraintsCut
  rw [Finset.mem_sdiff, List.mem_toFinset, List.mem_toFinset]
  exact ⟨List.mem_append_right _ lost.1, lost.2⟩

/-- The cut comes from the notes alone exactly when the solver drops nothing that is not listed or noted. -/
theorem constraintsCut_eq_iff (found : FeasibilityResult) (notes : List BindingConstraint) :
    constraintsCut sort found notes = notesLost sort found notes ↔
      ∀ constraint ∈ found.binding, constraint ∈ keptConstraints sort found notes ∨ constraint ∈ notes := by
  constructor
  · intro same constraint reported
    by_contra dropped
    rw [not_or] at dropped
    have cut : constraint ∈ constraintsCut sort found notes := by
      unfold constraintsCut
      rw [Finset.mem_sdiff, List.mem_toFinset, List.mem_toFinset]
      exact ⟨List.mem_append_left _ reported, dropped.1⟩
    rw [same, mem_notesLost] at cut
    exact dropped.2 cut.1
  · intro covered
    refine Finset.Subset.antisymm ?_ (notesLost_subset sort found notes)
    intro constraint cut
    unfold constraintsCut at cut
    rw [Finset.mem_sdiff, List.mem_toFinset, List.mem_toFinset, List.mem_append] at cut
    rw [mem_notesLost]
    exact ⟨cut.1.elim (fun reported => (covered constraint reported).resolve_left cut.2) id, cut.2⟩

/-- The counter counts the demands that lose notes; their number is that of the lost constraints when each
loses one, and otherwise only when some demand loses none. -/
theorem demandsCut_notesLost (found : FeasibilityResult) (snapshot : FabricSnapshot) :
    ((∀ cut ∈ notesCut sort found snapshot, cut.1 = [] ∨ cut.2 = 1) →
      demandsCut (roomForNotes sort found) (derivedNotes snapshot) =
        (notesLost sort found (derivedNotes snapshot).flatten).card) ∧
    (¬ CutsRepeat sort found snapshot →
      demandsCut (roomForNotes sort found) (derivedNotes snapshot) ≤
          (notesLost sort found (derivedNotes snapshot).flatten).card ∧
        (demandsCut (roomForNotes sort found) (derivedNotes snapshot) =
            (notesLost sort found (derivedNotes snapshot).flatten).card →
          ∀ cut ∈ notesCut sort found snapshot, cut.1 = [] ∨ cut.2 = 1)) := by
  unfold notesCut notesLost
  rw [demandsCut_eq, ← beyond_flatten]
  refine ⟨length_nonempty_eq _ _, fun fresh => length_nonempty_le _ _ fun cut listed => ?_⟩
  by_contra repeated
  rw [not_or, not_not] at repeated
  exact fresh ⟨cut, listed, repeated⟩

variable {sort} (sorts : SortsConstraints sort)

include sorts

/-- The constraints are declared exactly when as many demands are cut as different constraints. -/
theorem declaresTruncation_iff_card (found : FeasibilityResult) (plan : Plan) (snapshot : FabricSnapshot) :
    DeclaresTruncation found (plan.withFinding sort found) snapshot
        (buildExplanationBy sort (plan.withFinding sort found) snapshot) ↔
      demandsCut (roomForNotes sort found) (derivedNotes snapshot) =
        (constraintsCut sort found (derivedNotes snapshot).flatten).card := by
  have scanned := buildExplanation_scanned sorts found plan snapshot
  obtain ⟨allocations, allocationCount, alternatives, alternativeCount⟩ :=
    buildExplanation_lists sort (plan.withFinding sort found) snapshot
  have left : constraintsLeftOut found snapshot
      (buildExplanationBy sort (plan.withFinding sort found) snapshot) =
      constraintsCut sort found (derivedNotes snapshot).flatten := by
    unfold constraintsLeftOut constraintsCut
    congr 1
    ext constraint
    rw [List.mem_toFinset, List.mem_toFinset]
    exact scanned.constraints constraint
  constructor
  · intro declares
    rw [← scanned.omitted, declares.constraints, left]
  · intro agree
    refine ⟨?_, ?_, ?_, ?_⟩
    · have cut : (constraintsCut sort found (derivedNotes snapshot).flatten).Nonempty ↔
          roomForNotes sort found < (derivedNotes snapshot).flatten.length := by
        rw [← Finset.card_pos, ← agree, Nat.pos_iff_ne_zero, Ne, demandsCut_eq_zero, not_le]
      rw [scanned.truncated, left, cut, allocations, alternatives, scanned.notes, take_ne_iff, take_ne_iff,
        take_ne_iff]
      exact or_left_comm
    · rw [scanned.omitted, left]
      exact agree
    · rw [allocations, allocationCount]
      exact counts_take _ _
    · rw [alternatives, alternativeCount]
      exact counts_take _ _

end Declared

/-! One constraint less than the bound, and two demands with a note each. -/

def unmetMinimum (floor : Nat) : BindingConstraint :=
  { kind := .demandMinimum
    subject := text "demand/demand-" ++ decimal floor
    required := floor
    slack := -floor }

/-- The floors of as many demands as asked for, all unmet. -/
def findingOf (count : Nat) : FeasibilityResult :=
  { status := .infeasibleCapacity
    binding := (List.range count).map unmetMinimum }

theorem findingOf_distinct (count : Nat) : (findingOf count).binding.Nodup := by
  unfold findingOf
  apply List.Nodup.map _ List.nodup_range
  intro first second same
  exact Int.ofNat.inj (congrArg BindingConstraint.required same)

theorem findingOf_length (count : Nat) : (findingOf count).binding.length = count := by
  unfold findingOf
  rw [List.length_map, List.length_range]

/-- Different constraints are all kept up to the bound. -/
theorem SortsConstraints.keeps {sort : List BindingConstraint → List BindingConstraint}
    (sorts : SortsConstraints sort) {found : FeasibilityResult} (distinct : found.binding.Nodup)
    (short : found.binding.length ≤ Limits.maxExplanationEntries) :
    (found.canonicalizeBindingsBy sort).binding = sort found.binding := by
  have merged : sortConstraintsBy sort found.binding = sort found.binding := by
    unfold sortConstraintsBy
    rw [List.destutter_eq_self_iff]
    exact ((sorts.perm found.binding).nodup_iff.mpr distinct).isChain
  unfold FeasibilityResult.canonicalizeBindingsBy
  dsimp only
  rw [merged, if_neg (by rw [(sorts.perm found.binding).length_eq]; omega)]

theorem tenantNote_unfound (demand : Demand) (count : Nat) :
    tenantNote demand ∉ (findingOf count).binding := by
  unfold findingOf
  rw [List.mem_map]
  rintro ⟨floor, -, same⟩
  exact ConstraintKind.noConfusion (congrArg BindingConstraint.kind same)

/-- The policy admits another tenant than the one of the demands. -/
def foreignMeshFabric : FabricSnapshot :=
  { meshFabric with policy := foreignTenantFabric.policy }

theorem foreignMeshFabric_notes :
    derivedNotes foreignMeshFabric = meshDemands.map fun demand => [tenantNote demand] := by
  decide +kernel

theorem findingOf_room {sort : List BindingConstraint → List BindingConstraint}
    (sorts : SortsConstraints sort)
    {count : Nat} (short : count ≤ Limits.maxExplanationEntries) :
    roomForNotes sort (findingOf count) = Limits.maxExplanationEntries - count := by
  have kept := sorts.keeps (findingOf_distinct count) (by rwa [findingOf_length])
  unfold roomForNotes
  rw [kept, (sorts.perm _).length_eq, findingOf_length]

/-- The room is for the note of the first demand, and the second one loses its own. -/
theorem foreignMeshFabric_cuts {sort : List BindingConstraint → List BindingConstraint}
    (sorts : SortsConstraints sort) : CutsSingly sort (findingOf 127) foreignMeshFabric := by
  have short : 127 ≤ Limits.maxExplanationEntries := by decide
  have kept := sorts.keeps (findingOf_distinct 127) (by rwa [findingOf_length])
  have room := findingOf_room sorts short
  refine ⟨fun constraint reported => Or.inl ?_, ?_⟩
  · unfold keptConstraints
    rw [kept, List.mem_append, (sorts.perm _).mem_iff]
    exact Or.inl reported
  · unfold notesCut keptConstraints
    rw [kept, room, foreignMeshFabric_notes]
    refine additions_second ?_ ?_
    · decide +kernel
    · rw [(sorts.perm _).mem_iff]
      exact tenantNote_unfound _ 127

/-- One constraint more than the bound. -/
def crowdedFinding : FeasibilityResult :=
  findingOf (Limits.maxExplanationEntries + 1)

theorem linkFabric_silent : (derivedNotes linkFabric).flatten = [] := by
  decide +kernel

end TrafficFabric
