import TrafficFabric.PlanDecodes

set_option autoImplicit false

/- Whatever the bytes, a plan that the decoder gives out has passed its checks. -/
namespace TrafficFabric

theorem need_str_gives (maxLength : Nat) (code : ErrorCode) (detail : String) :
    Gives (need (Reader.str maxLength) code detail) fun value => value.length ≤ maxLength := by
  intro input result read
  unfold need Reader.str at read
  cases counted : Reader.u32 input with
  | none =>
      rw [counted] at read
      cases read
  | some pair =>
      rw [counted] at read
      simp only at read
      split at read
      · cases read
      · rename_i pair' found
        cases read
        split at found
        · cases found
        · rename_i short
          unfold Reader.raw at found
          split at found
          · cases found
          · cases found
            rw [List.length_take]
            omega

theorem parsed_gives {α : Type} (value : Option α) (code : ErrorCode) (detail : String) :
    Gives (parsed value code detail) fun found => value = some found := by
  cases value with
  | none => exact Gives.throw _
  | some value => exact Gives.pure rfl

theorem refuse_gives (condition : Bool) (code : ErrorCode) (detail : String) :
    Gives (refuse condition code detail) fun _ => condition = false := by
  cases condition with
  | true => exact Gives.throw _
  | false => exact Gives.pure rfl

theorem valid_of_parse {kind : IdKind} {name : Text} {id : Id kind} (found : Id.parse name = some id) :
    id.valid = true := by
  unfold Id.parse at found
  split at found
  · rename_i accepted
    cases found
    unfold Id.valid
    unfold isValidName at accepted
    cases name with
    | nil => simp at accepted
    | cons byte rest => rfl
  · cases found

theorem valid_of_parse_value {kind : GenKind} {value : UInt64} {generation : Gen kind}
    (found : Gen.parse value = some generation) : generation.valid = true := by
  unfold Gen.parse at found
  split at found
  · cases found
  · rename_i positive
    cases found
    exact bne_iff_ne.2 positive

namespace PlanCodec

theorem requiredId_gives {kind : IdKind} (malformed invalid : String) :
    Gives (requiredId malformed invalid : Decoding (Id kind)) fun id => id.valid = true :=
  Gives.after fun _ => (parsed_gives _ _ _).mono fun _ found => valid_of_parse found

theorem requiredGen_gives {kind : GenKind} (truncated zero : String) :
    Gives (requiredGen truncated zero : Decoding (Gen kind)) fun generation => generation.valid = true :=
  Gives.after fun _ => (parsed_gives _ _ _).mono fun _ found => valid_of_parse_value found

theorem optionalGen_gives {kind : GenKind} (present : Bool) (truncated zero : String) :
    Gives (optionalGen present truncated zero : Decoding (Gen kind)) fun generation =>
      present = true → generation.valid = true := by
  refine Gives.after fun value => ?_
  cases present with
  | true => exact (parsed_gives _ _ _).mono fun _ found _ => valid_of_parse_value found
  | false => exact Gives.pure nofun

theorem boundedText_gives (malformed : String) :
    Gives (boundedText malformed) fun value => value.length ≤ Limits.maxTextLength :=
  need_str_gives _ _ _

theorem bounded_gives {α : Type} {element : Decoding α} {holds : α → Prop} (each : Gives element holds)
    (limit : Nat) (truncated oversized : String) :
    Gives (bounded limit truncated oversized element) fun values =>
      values.length ≤ limit ∧ ∀ value ∈ values, holds value := by
  refine Gives.after fun count => (refuse_gives _ _ _).bind fun _ small => ?_
  refine (each.repeated count.toNat).mono fun values facts => ⟨?_, facts.2⟩
  rw [decide_eq_false_iff_not, not_lt] at small
  rw [facts.1]
  exact small

theorem alternative_gives : Gives readAlternative RejectedAlternative.Readable :=
  (boundedText_gives _).bind fun _ subject => (boundedText_gives _).bind fun _ reason =>
    Gives.after fun _ => Gives.pure ⟨subject, reason⟩

theorem constraint_gives : Gives readConstraint BindingConstraint.Readable := by
  unfold readConstraint
  refine Gives.after fun _ => Gives.after fun _ => (boundedText_gives _).bind fun _ subject => ?_
  refine Gives.after fun _ => Gives.after fun _ => Gives.after fun _ => ?_
  refine Gives.after fun _ => Gives.after fun _ => Gives.after fun _ => ?_
  exact (boundedText_gives _).bind fun _ detail => Gives.pure ⟨subject, detail⟩

theorem feasibility_gives : Gives readFeasibility FeasibilityResult.Readable := by
  unfold readFeasibility
  refine (boundedText_gives _).bind fun _ summary => Gives.after fun _ => Gives.after fun _ => ?_
  exact (bounded_gives constraint_gives _ _ _).bind fun _ binding =>
    Gives.pure ⟨summary, binding.1, binding.2⟩

theorem pathShare_gives : Gives readPathShare PathShare.Readable := by
  unfold readPathShare
  refine (requiredId_gives _ _).bind fun _ path => (requiredGen_gives _ _).bind fun _ generation => ?_
  refine Gives.after fun _ => Gives.after fun _ => Gives.after fun _ => Gives.after fun _ => ?_
  exact Gives.after fun _ => Gives.after fun _ => Gives.pure ⟨path, generation⟩

theorem demandAllocation_gives : Gives readDemandAllocation DemandAllocation.Readable := by
  unfold readDemandAllocation
  refine (requiredId_gives _ _).bind fun _ demand => (requiredGen_gives _ _).bind fun _ generation => ?_
  refine Gives.after fun _ => Gives.after fun _ => Gives.after fun _ => Gives.after fun _ => ?_
  refine Gives.after fun _ => Gives.after fun _ => Gives.after fun _ => Gives.after fun _ => ?_
  refine Gives.after fun _ => Gives.after fun _ =>
    (bounded_gives pathShare_gives _ _ _).bind fun _ shares => ?_
  exact Gives.pure ⟨⟨demand, generation⟩, shares.1, shares.2⟩

theorem resourceUtilization_gives : Gives readResourceUtilization ResourceUtilization.Readable := by
  unfold readResourceUtilization
  refine (requiredId_gives _ _).bind fun _ resource => (requiredGen_gives _ _).bind fun _ generation => ?_
  refine Gives.after fun _ => Gives.after fun _ => Gives.after fun _ => Gives.after fun _ => ?_
  refine Gives.after fun _ => Gives.after fun _ => Gives.after fun _ => Gives.after fun _ => ?_
  exact Gives.pure ⟨resource, generation⟩

theorem allocation_gives : Gives readAllocation Allocation.Readable := by
  unfold readAllocation
  refine (bounded_gives demandAllocation_gives _ _ _).bind fun _ demands => ?_
  refine (bounded_gives resourceUtilization_gives _ _ _).bind fun _ resources => ?_
  refine Gives.after fun _ => Gives.after fun _ => Gives.after fun _ => ?_
  exact Gives.pure ⟨demands.1, demands.2, resources.1, resources.2⟩

theorem churn_gives : Gives readChurn fun churn => churn.rationale.length ≤ Limits.maxTextLength := by
  unfold readChurn
  refine Gives.after fun _ => Gives.after fun _ => Gives.after fun _ => Gives.after fun _ => ?_
  refine Gives.after fun _ => Gives.after fun _ => Gives.after fun _ => Gives.after fun _ => ?_
  refine Gives.after fun _ => Gives.after fun _ => Gives.after fun _ => Gives.after fun _ => ?_
  exact (boundedText_gives _).bind fun _ rationale => Gives.pure rationale

/-- What the first part of the record has been checked for. -/
structure Bound (plan : Plan) : Prop where
  named : plan.id.valid = true ∧ plan.generation.valid = true
  attempt : plan.attempt.valid = true ∧ plan.attemptGeneration.valid = true
  publisher : plan.publisher.valid = true ∧ plan.publisherBoot.valid = true
  incarnation : plan.coordinatorIncarnation.valid = true
  authority : plan.authority.valid = true

theorem planBinding_gives : Gives readPlanBinding Bound := by
  unfold readPlanBinding
  refine Gives.after fun _ => Gives.after fun _ => (requiredId_gives _ _).bind fun _ id => ?_
  refine (requiredGen_gives _ _).bind fun _ generation => Gives.after fun _ => Gives.after fun _ => ?_
  refine Gives.after fun _ => Gives.after fun _ => (requiredId_gives _ _).bind fun _ attempt => ?_
  refine (requiredGen_gives _ _).bind fun _ attemptGeneration => ?_
  refine (requiredId_gives _ _).bind fun _ publisher => Gives.after fun bytes => ?_
  refine (refuse_gives _ _ _).bind fun _ boot => (requiredGen_gives _ _).bind fun _ incarnation => ?_
  refine Gives.after fun _ => (refuse_gives _ _ _).bind fun _ authority => ?_
  rw [Bool.not_eq_false'] at boot authority
  exact Gives.pure
    { named := ⟨id, generation⟩
      attempt := ⟨attempt, attemptGeneration⟩
      publisher := ⟨publisher, boot⟩
      incarnation := incarnation
      authority := authority }

end PlanCodec

/-- What the lineage at the end of the record leaves to be checked. -/
theorem planLineage_gives {plan : Plan}
    (readable : ∀ supersedes supersededBy commit commitGeneration committedTick declaredTick proposedTick,
      supersedes.Readable → supersededBy.Readable → (commit.valid = true → commitGeneration.valid = true) →
      Plan.Readable { plan with
        supersedes := supersedes
        supersededBy := supersededBy
        commit := commit
        commitGeneration := commitGeneration
        committedTick := committedTick
        declaredTick := declaredTick
        proposedTick := proposedTick }) :
    Gives (PlanCodec.readPlanLineage plan) Plan.Readable := by
  unfold PlanCodec.readPlanLineage
  refine Gives.after fun _ => (PlanCodec.optionalGen_gives _ _ _).bind fun _ supersedes => ?_
  refine Gives.after fun _ => (PlanCodec.optionalGen_gives _ _ _).bind fun _ supersededBy => ?_
  refine Gives.after fun _ => (PlanCodec.optionalGen_gives _ _ _).bind fun _ commit => ?_
  refine Gives.after fun _ => Gives.after fun _ => Gives.after fun _ => Gives.pure ?_
  exact readable _ _ _ _ _ _ _ supersedes supersededBy commit

theorem readPlan_gives : Gives PlanCodec.readPlan Plan.Readable := by
  unfold PlanCodec.readPlan
  refine PlanCodec.planBinding_gives.bind fun plan bound => ?_
  have each : Gives PlanCodec.readComponent fun _ => True := fun _ _ _ => trivial
  refine (PlanCodec.bounded_gives each _ _ _).bind fun _ components => ?_
  refine (PlanCodec.bounded_gives PlanCodec.alternative_gives _ _ _).bind fun _ alternatives => ?_
  refine PlanCodec.feasibility_gives.bind fun _ feasibility => ?_
  refine PlanCodec.allocation_gives.bind fun _ allocation =>
    PlanCodec.churn_gives.bind fun _ rationale => ?_
  refine Gives.after fun _ => Gives.after fun _ => Gives.after fun _ => planLineage_gives ?_
  intro supersedes supersededBy commit commitGeneration _ _ _ first second third
  exact
    { named := bound.named
      attempt := bound.attempt
      publisher := bound.publisher
      incarnation := bound.incarnation
      authority := bound.authority
      componentCount := components.1
      alternativeCount := alternatives.1
      alternatives := alternatives.2
      feasibility := feasibility
      allocation := allocation
      rationale := rationale
      supersedes := first
      supersededBy := second
      commit := third }

/-- The decoder gives out readable plans only. -/
theorem readable_of_decodePlan {payload : List UInt8} {plan : Plan}
    (decoded : decodePlan payload = .ok plan) : plan.Readable := by
  unfold decodePlan decodeWhole at decoded
  split at decoded
  · cases decoded
  · rename_i value rest read
    split at decoded
    · cases decoded
      exact readPlan_gives _ _ read
    · cases decoded

end TrafficFabric
