import TrafficFabric.EngineLog
import TrafficFabric.Lineage
import TrafficFabric.PlanContent

set_option autoImplicit false

/- A restart gives back what was in memory. The log follows the engine call by call, so that a fresh
engine recovers every plan, with its content and its place in its chain, and the same incumbent. -/
namespace TrafficFabric

open PlanStateMachine (isLive)

/-! What is read back twice. -/

@[simp] theorem wrap64_wrap64 (value : Int) : wrap64 (wrap64 value) = wrap64 value := by
  unfold wrap64
  rw [Writer.ofInt_signed]

theorem map_twice {α : Type} {durable : α → α} (twice : ∀ item, durable (durable item) = durable item)
    (items : List α) : (items.map durable).map durable = items.map durable := by
  rw [List.map_map]
  exact List.map_congr_left fun item _ => twice item

theorem PathShare.durable_durable (share : PathShare) : share.durable.durable = share.durable := by
  simp only [PathShare.durable, wrap64_wrap64]

theorem DemandAllocation.durable_durable (demand : DemandAllocation) :
    demand.durable.durable = demand.durable := by
  simp only [DemandAllocation.durable, wrap64_wrap64, map_twice PathShare.durable_durable]

theorem ResourceUtilization.durable_durable (resource : ResourceUtilization) :
    resource.durable.durable = resource.durable := by
  simp only [ResourceUtilization.durable, wrap64_wrap64]

theorem Allocation.durable_durable (allocation : Allocation) :
    allocation.durable.durable = allocation.durable := by
  simp only [Allocation.durable, wrap64_wrap64, map_twice DemandAllocation.durable_durable,
    map_twice ResourceUtilization.durable_durable]

theorem FeasibilityResult.durable_durable (feasibility : FeasibilityResult) :
    feasibility.durable.durable = feasibility.durable := by
  have each : ∀ constraint : BindingConstraint, constraint.durable.durable = constraint.durable := by
    intro constraint
    simp only [BindingConstraint.durable, wrap64_wrap64]
  simp only [FeasibilityResult.durable, map_twice each]

theorem ChurnReport.durable_durable (churn : ChurnReport) : churn.durable.durable = churn.durable := by
  simp only [ChurnReport.durable, wrap64_wrap64]

theorem Ref.durable_durable {id : IdKind} {generation : GenKind} (ref : Ref id generation) :
    ref.durable.durable = ref.durable := by
  unfold Ref.durable
  by_cases valid : ref.id.valid = true
  · simp only [valid, if_true]
  · simp only [valid, if_false, Bool.false_eq_true]

/-- What is read back is read back as it is. -/
theorem Plan.durable_durable (plan : Plan) : plan.durable.durable = plan.durable := by
  have components : ∀ component : ObjectiveComponent, component.durable.durable = component.durable := by
    intro component
    simp only [ObjectiveComponent.durable, wrap64_wrap64]
  have alternatives : ∀ alternative : RejectedAlternative, alternative.durable.durable =
      alternative.durable := by
    intro alternative
    simp only [RejectedAlternative.durable, wrap64_wrap64]
  have generation : (if plan.commit.valid then if plan.commit.valid then plan.commitGeneration else default
      else default) = (if plan.commit.valid then plan.commitGeneration else default) := by
    by_cases valid : plan.commit.valid = true
    · rw [if_pos valid, if_pos valid]
    · rw [if_neg valid, if_neg valid]
  unfold Plan.durable
  dsimp only
  rw [plan.allocation.durable_durable, plan.feasibility.durable_durable, plan.churn.durable_durable,
    wrap64_wrap64, map_twice components, map_twice alternatives, plan.supersedes.durable_durable,
    plan.supersededBy.durable_durable, generation]

namespace Engine

/-- The state in which a plan is found after a restart. -/
def settled (state : PlanState) : PlanState := if isLive state then .stale else state

@[simp] theorem settled_settled (state : PlanState) : settled (settled state) = settled state := by
  cases state <;> rfl

theorem settled_idle (state : PlanState) : isLive (settled state) = false := by cases state <;> rfl

theorem settled_committed {state : PlanState} : settled state = .committed ↔ state = .committed := by
  cases state <;> decide

/-- A plan, and what recovery makes of its record. -/
structure Restores (plan found : Plan) : Prop where
  content : found = { plan.durable with state := settled plan.state, applicability := found.applicability }
  stale : isLive plan.state = true → found.applicability = .stale
  applicability : found.applicability = .stale ∨ found.applicability = .revalidationRequired

theorem restores_restored (plan : Plan) : Restores plan (restored plan.durable) := by
  have same : plan.durable.state = plan.state := rfl
  unfold restored
  by_cases live : isLive plan.state = true
  · rw [same, if_pos live]
    exact ⟨by rw [settled, if_pos live], fun _ => rfl, Or.inl rfl⟩
  · rw [same, if_neg live]
    exact ⟨by rw [settled, if_neg live], fun alive => absurd alive live, Or.inr rfl⟩

/-- A plan that was found after a restart is found so after the next one. -/
theorem Restores.again {plan found : Plan} (restores : Restores plan found) : Restores found found := by
  have content := restores.content
  refine ⟨?_, ?_, restores.applicability⟩
  · have twice : found.durable =
        { plan.durable.durable with
          state := settled plan.state
          applicability := found.applicability } := by
      rw [content]
      rfl
    have state : found.state = settled plan.state := by rw [content]
    rw [twice, plan.durable_durable, state, settled_settled]
    exact content
  · intro live
    rw [content] at live
    exact absurd live (by rw [settled_idle]; nofun)

/-- The plans that recovery makes of a log. -/
def recoveredPlans (log : List DurableRecord) : OrdMap PlanId Plan :=
  (collapse durable log).1.mapValues restored

/-- Every plan in memory is what the log says of it. -/
def Mirrors (plans : OrdMap PlanId Plan) (log : List DurableRecord) : Prop :=
  ∀ id, Option.Rel Restores (plans.find? id) ((recoveredPlans log).find? id)

/-- Every plan record of the log can be read. -/
def Decodes (log : List DurableRecord) : Prop :=
  ∀ record ∈ log, record.type = .plan → ∃ plan, decodePlan record.payload = .ok plan

theorem recoveredPlans_other (log : List DurableRecord) {record : DurableRecord}
    (other : record.type ≠ .plan) :
    recoveredPlans (log ++ [record]) = recoveredPlans log := by
  unfold recoveredPlans collapse
  rw [List.foldl_append, List.foldl_cons, List.foldl_nil, if_neg other]

theorem recoveredPlans_others (log : List DurableRecord) {records : List DurableRecord}
    (others : ∀ record ∈ records, record.type ≠ .plan) :
    recoveredPlans (log ++ records) = recoveredPlans log := by
  induction records using List.reverseRecOn with
  | nil => rw [List.append_nil]
  | append_singleton rest last ih =>
      rw [← List.append_assoc, recoveredPlans_other _ (others last (by simp))]
      exact ih fun record member => others record (List.mem_append_left _ member)

theorem recoveredPlans_plan (log : List DurableRecord) {record : DurableRecord} {plan : Plan}
    (spelled : Spells record plan) (decodes : ∃ read, decodePlan record.payload = .ok read) (id : PlanId) :
    (recoveredPlans (log ++ [record])).find? id =
      if id = plan.id then some (restored plan.durable) else (recoveredPlans log).find? id := by
  obtain ⟨⟨type, payload⟩, bounded⟩ := spelled
  obtain ⟨read, decoded⟩ := decodes
  have same : read = plan.durable := by
    rw [payload] at decoded
    exact decodePlan_encodePlan (fitsRecord_of_length bounded) decoded
  have codec : durable.decodePlan = decodePlan := rfl
  unfold recoveredPlans collapse
  rw [List.foldl_append, List.foldl_cons, List.foldl_nil, if_pos type, codec]
  simp only [decoded, same]
  have key : plan.durable.id = plan.id := rfl
  rw [OrdMap.find?_mapValues, OrdMap.find?_insert, OrdMap.find?_mapValues, key]
  by_cases here : id = plan.id
  · rw [if_pos here, if_pos here]
    rfl
  · rw [if_neg here, if_neg here]

section Mirroring

variable {plans : OrdMap PlanId Plan} {log : List DurableRecord}

theorem Mirrors.record (mirrors : Mirrors plans log) {record : DurableRecord} {plan : Plan}
    (spelled : Spells record plan) (decodes : ∃ read, decodePlan record.payload = .ok read) :
    Mirrors (plans.insert plan.id plan) (log ++ [record]) := by
  intro id
  rw [recoveredPlans_plan log spelled decodes, OrdMap.find?_insert]
  by_cases here : id = plan.id
  · rw [if_pos here, if_pos here]
    exact Option.Rel.some (restores_restored plan)
  · rw [if_neg here, if_neg here]
    exact mirrors id

theorem Mirrors.records (mirrors : Mirrors plans log) {records : List DurableRecord} {written : List Plan}
    (spells : List.Forall₂ Spells records written) (decodes : Decodes records) :
    Mirrors (storeAll plans written) (log ++ records) := by
  induction spells generalizing plans log with
  | nil =>
      rw [List.append_nil]
      exact mirrors
  | @cons record plan rest later spelled _ ih =>
      have first := mirrors.record spelled (decodes record List.mem_cons_self spelled.1.1)
      have whole := ih first fun other member => decodes other (List.mem_cons_of_mem record member)
      rw [List.append_assoc] at whole
      exact whole

/-- What a call notes of a plan is not in the log, and not lost either. -/
theorem Mirrors.note (mirrors : Mirrors plans log) {engine : Engine durable} {operation : Operation durable}
    {id : PlanId} {plan next : Plan} (found : plans.find? id = some plan) (key : next.id = id)
    (noted : Noted engine plan operation next) : Mirrors (plans.insert next.id next) log := by
  intro other
  rw [OrdMap.find?_insert, key]
  by_cases here : other = id
  · rw [if_pos here, here]
    have before := mirrors id
    rw [found] at before
    cases recovered : (recoveredPlans log).find? id with
    | none =>
        rw [recovered] at before
        cases before
    | some read =>
        rw [recovered] at before
        cases before with
        | some restores =>
            refine Option.Rel.some ?_
            cases noted with
            | current | behind => exact ⟨restores.content, restores.stale, restores.applicability⟩
            | unfounded declared =>
                have content := restores.content
                rw [declared] at content
                exact ⟨content, nofun, restores.applicability⟩
  · rw [if_neg here]
    exact mirrors other

theorem Mirrors.places {incumbent : PlanRef} (mirrors : Mirrors plans log)
    (lineage : Lineage plans incumbent) :
    SamePlaces plans (recoveredPlans log) := by
  have kept : ∀ ref : PlanRef, Refers plans ref → ref.durable = ref := by
    intro ref refers
    rcases refers with rfl | ⟨plan, found, -⟩
    · rfl
    · unfold Ref.durable
      rw [if_pos (lineage.valid _ plan found)]
  intro id
  have related := mirrors id
  cases before : plans.find? id with
  | none =>
      rw [before] at related
      cases after : (recoveredPlans log).find? id with
      | none => exact Option.Rel.none
      | some found =>
          rw [after] at related
          cases related
  | some plan =>
      rw [before] at related
      cases after : (recoveredPlans log).find? id with
      | none =>
          rw [after] at related
          cases related
      | some found =>
          rw [after] at related
          cases related with
          | some restores =>
              have content := restores.content
              refine Option.Rel.some ⟨?_, ?_, ?_, ?_, ?_⟩
              · rw [content]
                rfl
              · rw [content]
                rfl
              · rw [content]
                exact kept _ (lineage.supersedes id plan before)
              · rw [content]
                exact kept _ (lineage.supersededBy id plan before)
              · intro live
                rw [content] at live
                exact absurd live (by rw [settled_idle]; nofun)

end Mirroring

/-! The incumbent that is found again. -/

theorem foldl_incumbent {entries : List (PlanId × Plan)} {ref : PlanRef}
    (only : ∀ entry ∈ entries, entry.2.state = .committed → entry.2.ref = ref) (start : PlanRef) :
    entries.foldl (fun incumbent entry => if entry.2.state = .committed then entry.2.ref
      else incumbent) start =
      if ∃ entry ∈ entries, entry.2.state = .committed then ref else start := by
  induction entries generalizing start with
  | nil => simp
  | cons entry rest ih =>
      rw [List.foldl_cons, ih fun other member => only other (List.mem_cons_of_mem entry member)]
      by_cases committed : entry.2.state = .committed
      · rw [if_pos committed, only entry List.mem_cons_self committed, ite_self, if_pos]
        exact ⟨entry, List.mem_cons_self, committed⟩
      · rw [if_neg committed]
        simp only [List.mem_cons, exists_eq_or_imp, committed, false_or]

/-- Recovery finds the one committed plan. -/
theorem recoveredIncumbent_eq {plans : OrdMap PlanId Plan} {ref : PlanRef}
    (only : ∀ id plan, plans.find? id = some plan → plan.state = .committed → plan.ref = ref) :
    ((∃ id plan, plans.find? id = some plan ∧ plan.state = .committed) → recoveredIncumbent plans = ref) ∧
      ((∀ id plan, plans.find? id = some plan → plan.state ≠ .committed) →
        recoveredIncumbent plans = default) := by
  have listed : ∀ entry ∈ plans.entries, entry.2.state = .committed → entry.2.ref = ref :=
      fun entry member =>
    only entry.1 entry.2 ((plans.mem_entries_iff entry.1 entry.2).1 member)
  have folded := foldl_incumbent listed default
  constructor
  · rintro ⟨id, plan, found, committed⟩
    unfold recoveredIncumbent
    rw [folded, if_pos ⟨(id, plan), (plans.mem_entries_iff id plan).2 found, committed⟩]
  · intro vacant
    unfold recoveredIncumbent
    rw [folded, if_neg]
    rintro ⟨entry, member, committed⟩
    exact vacant entry.1 entry.2 ((plans.mem_entries_iff entry.1 entry.2).1 member) committed

end Engine

end TrafficFabric
