import TrafficFabric.ReaderImages

set_option autoImplicit false

/- What the bytes of an accepted plan record are: the image of the plan, but for the words that stand where
a reference is absent. -/
namespace TrafficFabric

namespace PlanCodec

open Reader (u8_spells u16_spells u32_spells u64_spells i64_spells boolean_spells str_spells digest_spells
  raw_spells)

/-! Fields. -/

theorem need_consumes {α : Type} {read : Reader α} {image : α → List UInt8} {holds : α → Prop}
    (spells : read.Spells image holds) (code : ErrorCode) (detail : String) :
    Consumes (need read code detail) fun value word => word = image value ∧ holds value := by
  intro bytes value rest found
  unfold need at found
  cases run : read bytes with
  | none =>
      rw [run] at found
      cases found
  | some pair =>
      rw [run] at found
      cases found
      obtain ⟨split, fact⟩ := spells bytes value rest run
      exact ⟨image value, split, rfl, fact⟩

/-- A field that is read and not checked. -/
theorem need_rewrites {α : Type} {read : Reader α} {image : α → List UInt8} {holds : α → Prop}
    (spells : read.Spells image holds) (code : ErrorCode) (detail : String) :
    Rewrites (need read code detail) image :=
  (need_consumes spells code detail).mono fun _ _ spelled => spelled.1

theorem i64_rewrites (detail : String) : Rewrites (need Reader.i64 .truncatedInput detail) Writer.i64 :=
  need_rewrites i64_spells _ _

theorem boundedText_rewrites (malformed : String) : Rewrites (boundedText malformed) Writer.str :=
  need_rewrites (str_spells _) _ _

theorem requiredId_rewrites {kind : IdKind} (malformed invalid : String) :
    Rewrites (requiredId malformed invalid : Decoding (Id kind)) fun id => Writer.str id.str :=
  (requiredId_codec malformed invalid).consumes.mono fun _ _ spelled => spelled.1

theorem requiredGen_rewrites {kind : GenKind} (truncated zero : String) :
    Rewrites (requiredGen truncated zero : Decoding (Gen kind)) fun generation =>
      Writer.u64 generation.value :=
  (requiredGen_codec truncated zero).consumes.mono fun _ _ spelled => spelled.1

theorem optionalId_rewrites {kind : IdKind} (malformed invalid : String) :
    Rewrites (optionalId malformed invalid : Decoding (Id kind)) fun id => Writer.str id.str := by
  refine (need_rewrites (str_spells Limits.maxNameLength) _ _).bind fun name =>
    Consumes.ite (fun empty => ?_) fun _ => ?_
  · refine Consumes.pure ?_
    rw [List.isEmpty_iff.1 empty]
    rfl
  · refine (parsed_consumes _ _ _).mono fun id _ ⟨nothing, read⟩ => ?_
    obtain ⟨rfl, -⟩ := str_of_parse read
    rw [nothing, List.append_nil]

/-- The word is read all the same, and forgotten when the identity before it is absent. -/
theorem optionalGen_consumes {kind : GenKind} (present : Bool) (truncated zero : String) :
    Consumes (optionalGen present truncated zero : Decoding (Gen kind)) fun generation word =>
      ∃ value, word = Writer.u64 value ∧ generation.value = if present then value else 0 := by
  refine (need_rewrites u64_spells _ _).bind fun value => Consumes.ite (fun set => ?_) fun absent => ?_
  · refine (parsed_consumes _ _ _).mono fun generation _ ⟨nothing, read⟩ => ⟨value, ?_, ?_⟩
    · rw [nothing, List.append_nil]
    · rw [(value_of_parse read).1, if_pos set]
  · refine Consumes.pure ⟨value, List.append_nil _, ?_⟩
    rw [if_neg absent]
    rfl

theorem code_of_ofCode {α κ : Type} [DecidableEq κ] {values : List α} {code : α → κ} {raw : κ} {value : α}
    (found : ofCode values code raw = some value) : code value = raw := by
  simpa using List.find?_some found

theorem bounded_rewrites {α : Type} {limit : Nat} {element : Decoding α} {image : α → List UInt8}
    (rewrites : Rewrites element image) (truncated oversized : String) :
    Rewrites (bounded limit truncated oversized element) (Writer.sequence image) := by
  refine (need_rewrites u32_spells _ _).bind fun count => ?_
  refine (refuse_consumes _ _ _).guarded fun _ _ => ?_
  refine (rewrites.repeated count.toNat).mono fun items _ ⟨images, counted⟩ => ?_
  have written : Writer.count items.length = Writer.u32 count := by
    unfold Writer.count
    rw [counted, Nat.toUInt32_eq, UInt32.ofNat_toNat]
  rw [images, ← written]
  rfl

/-! Sections of the record. -/

theorem readComponent_rewrites : Rewrites readComponent Writer.component := by
  refine (need_rewrites u16_spells _ _).bind fun code => ?_
  refine (parsed_consumes _ _ _).guarded fun term found => ?_
  refine (i64_rewrites _).bind fun weight => ?_
  refine (i64_rewrites _).bind fun raw => ?_
  refine (i64_rewrites _).bind fun weighted => Consumes.pure ?_
  rw [← code_of_ofCode found]
  simp only [Writer.component, List.append_assoc, List.append_nil]

theorem readAlternative_rewrites : Rewrites readAlternative Writer.alternative := by
  refine (boundedText_rewrites _).bind fun subject => ?_
  refine (boundedText_rewrites _).bind fun reason => ?_
  refine (i64_rewrites _).bind fun delta => Consumes.pure ?_
  simp only [Writer.alternative, List.append_assoc, List.append_nil]

theorem readConstraint_rewrites : Rewrites readConstraint Writer.constraint := by
  refine (need_rewrites u16_spells _ _).bind fun code => ?_
  refine (parsed_consumes _ _ _).guarded fun kind found => ?_
  refine (boundedText_rewrites _).bind fun subject => ?_
  refine (optionalId_rewrites _ _).bind fun demand => ?_
  refine (optionalId_rewrites _ _).bind fun resource => ?_
  refine (optionalId_rewrites _ _).bind fun path => ?_
  refine (i64_rewrites _).bind fun required => ?_
  refine (i64_rewrites _).bind fun available => ?_
  refine (i64_rewrites _).bind fun slack => ?_
  refine (boundedText_rewrites _).bind fun detail => Consumes.pure ?_
  rw [← code_of_ofCode found]
  simp only [Writer.constraint, List.append_assoc, List.append_nil]

theorem readFeasibility_rewrites : Rewrites readFeasibility Writer.feasibility := by
  refine (boundedText_rewrites _).bind fun summary => ?_
  refine (need_rewrites u16_spells _ _).bind fun code => ?_
  refine (parsed_consumes _ _ _).guarded fun status found => ?_
  refine (bounded_rewrites readConstraint_rewrites _ _).bind fun binding => Consumes.pure ?_
  rw [← code_of_ofCode found]
  simp only [Writer.feasibility, List.append_assoc, List.append_nil]

theorem readPathShare_rewrites : Rewrites readPathShare Writer.pathShare := by
  refine (requiredId_rewrites _ _).bind fun path => ?_
  refine (requiredGen_rewrites _ _).bind fun generation => ?_
  refine (i64_rewrites _).bind fun minimum => ?_
  refine (i64_rewrites _).bind fun desired => ?_
  refine (i64_rewrites _).bind fun granted => ?_
  refine (i64_rewrites _).bind fun reserved => ?_
  refine (i64_rewrites _).bind fun deltaFromIncumbent => ?_
  refine (need_rewrites boolean_spells _ _).bind fun newlyUsed => Consumes.pure ?_
  simp only [Writer.pathShare, List.append_assoc, List.append_nil]

theorem readDemandAllocation_rewrites : Rewrites readDemandAllocation Writer.demandAllocation := by
  refine (requiredId_rewrites _ _).bind fun demand => ?_
  refine (requiredGen_rewrites _ _).bind fun generation => ?_
  refine (i64_rewrites _).bind fun minimum => ?_
  refine (i64_rewrites _).bind fun desired => ?_
  refine (i64_rewrites _).bind fun maximum => ?_
  refine (i64_rewrites _).bind fun granted => ?_
  refine (i64_rewrites _).bind fun reserved => ?_
  refine (i64_rewrites _).bind fun effective => ?_
  refine (i64_rewrites _).bind fun observedApplied => ?_
  refine (need_rewrites boolean_spells _ _).bind fun appliedKnown => ?_
  refine (i64_rewrites _).bind fun shortfallAgainstMinimum => ?_
  refine (i64_rewrites _).bind fun shortfallAgainstDesired => ?_
  refine (bounded_rewrites readPathShare_rewrites _ _).bind fun shares => Consumes.pure ?_
  simp only [Writer.demandAllocation, List.append_assoc, List.append_nil]

theorem readResourceUtilization_rewrites : Rewrites readResourceUtilization Writer.resourceUtilization := by
  refine (requiredId_rewrites _ _).bind fun resource => ?_
  refine (requiredGen_rewrites _ _).bind fun generation => ?_
  refine (i64_rewrites _).bind fun usableCapacity => ?_
  refine (i64_rewrites _).bind fun committedLoad => ?_
  refine (i64_rewrites _).bind fun reserved => ?_
  refine (i64_rewrites _).bind fun available => ?_
  refine (i64_rewrites _).bind fun allocated => ?_
  refine (i64_rewrites _).bind fun headroom => ?_
  refine (i64_rewrites _).bind fun utilizationPermille => ?_
  refine (need_rewrites boolean_spells _ _).bind fun saturated => Consumes.pure ?_
  simp only [Writer.resourceUtilization, List.append_assoc, List.append_nil]

theorem readAllocation_rewrites : Rewrites readAllocation Writer.allocation := by
  refine (bounded_rewrites readDemandAllocation_rewrites _ _).bind fun demands => ?_
  refine (bounded_rewrites readResourceUtilization_rewrites _ _).bind fun resources => ?_
  refine (i64_rewrites _).bind fun totalGranted => ?_
  refine (i64_rewrites _).bind fun totalReserved => ?_
  refine (need_rewrites boolean_spells _ _).bind fun degraded => Consumes.pure ?_
  simp only [Writer.allocation, List.append_assoc, List.append_nil]

theorem readChurn_rewrites : Rewrites readChurn Writer.churn := by
  refine (need_rewrites u8_spells _ _).bind fun code => ?_
  refine (parsed_consumes _ _ _).guarded fun decision found => ?_
  refine (i64_rewrites _).bind fun incumbentScore => ?_
  refine (i64_rewrites _).bind fun proposalScore => ?_
  refine (i64_rewrites _).bind fun improvementPermille => ?_
  refine (i64_rewrites _).bind fun movedBandwidth => ?_
  refine (i64_rewrites _).bind fun movedPermille => ?_
  refine (need_rewrites u32_spells _ _).bind fun demandsChanged => ?_
  refine (need_rewrites u32_spells _ _).bind fun pathsAdded => ?_
  refine (need_rewrites u32_spells _ _).bind fun pathsRemoved => ?_
  refine (need_rewrites u32_spells _ _).bind fun failureDomainsChanged => ?_
  refine (i64_rewrites _).bind fun operationalRiskPermille => ?_
  refine (boundedText_rewrites _).bind fun rationale => Consumes.pure ?_
  rw [← code_of_ofCode found]
  simp only [Writer.churn, List.append_assoc, List.append_nil]

theorem authorityGen_rewrites {kind : GenKind} :
    Rewrites (authorityGen : Decoding (Gen kind)) fun generation => Writer.u64 generation.value := by
  refine (need_rewrites u64_spells _ _).bind fun value => ?_
  refine (parsed_consumes _ _ _).mono fun generation _ ⟨nothing, read⟩ => ?_
  obtain ⟨rfl, -⟩ := value_of_parse read
  rw [nothing, List.append_nil]

theorem authorityRef_rewrites {id : IdKind} {generation : GenKind} :
    Rewrites (authorityRef : Decoding (Ref id generation)) Writer.ref := by
  refine (need_rewrites (str_spells Limits.maxNameLength) _ _).bind fun name => ?_
  refine (need_rewrites u64_spells _ _).bind fun value => ?_
  refine (parsed_consumes _ _ _).guarded fun found named => ?_
  refine (parsed_consumes _ _ _).guarded fun number numbered => Consumes.pure ?_
  obtain ⟨rfl, -⟩ := str_of_parse named
  obtain ⟨rfl, -⟩ := value_of_parse numbered
  simp only [Writer.ref, List.append_nil]

theorem authorityDigest_rewrites : Rewrites authorityDigest Writer.digest := need_rewrites digest_spells _ _

theorem readAuthority_rewrites : Rewrites readAuthority Writer.authority := by
  refine authorityGen_rewrites.bind fun fabricEpoch => ?_
  refine authorityGen_rewrites.bind fun topologyGeneration => ?_
  refine authorityGen_rewrites.bind fun linkStateGeneration => ?_
  refine authorityGen_rewrites.bind fun pathAuthorityGeneration => ?_
  refine authorityGen_rewrites.bind fun failureDomainGeneration => ?_
  refine authorityRef_rewrites.bind fun capacity => ?_
  refine authorityRef_rewrites.bind fun reservations => ?_
  refine authorityRef_rewrites.bind fun policy => ?_
  refine authorityRef_rewrites.bind fun objective => ?_
  refine authorityRef_rewrites.bind fun candidateSet => ?_
  refine authorityDigest_rewrites.bind fun demandSetDigest => ?_
  refine authorityDigest_rewrites.bind fun candidateSetDigest => ?_
  refine authorityDigest_rewrites.bind fun resourceCatalogDigest => ?_
  refine authorityDigest_rewrites.bind fun reservationSetDigest => ?_
  refine authorityDigest_rewrites.bind fun policyDigest => ?_
  refine authorityDigest_rewrites.bind fun objectiveDigest => Consumes.pure ?_
  simp only [Writer.authority, List.append_assoc, List.append_nil]

/-- The sixteen bytes of the incarnation are kept as they are. -/
theorem boot_bytes {bytes : List UInt8} (width : bytes.length = 16) :
    Writer.boot ⟨Vector.ofFn fun i : Fin 16 => bytes.getD i.val 0⟩ = bytes := by
  apply List.ext_getElem
  · simp [Writer.boot, width]
  · intro i inside _
    have present : i < bytes.length := by simpa [Writer.boot, width] using inside
    simp [Writer.boot, present]

theorem readPlanBinding_rewrites : Rewrites readPlanBinding Writer.planBinding := by
  refine (need_rewrites u16_spells _ _).bind fun version => ?_
  refine (refuse_consumes _ _ _).guarded fun _ current => ?_
  refine (requiredId_rewrites _ _).bind fun name => ?_
  refine (requiredGen_rewrites _ _).bind fun generation => ?_
  refine (need_rewrites u16_spells _ _).bind fun stateCode => ?_
  refine (need_rewrites u16_spells _ _).bind fun applicabilityCode => ?_
  refine (parsed_consumes _ _ _).guarded fun state stateFound => ?_
  refine (parsed_consumes _ _ _).guarded fun applicability applicabilityFound => ?_
  refine (requiredId_rewrites _ _).bind fun attempt => ?_
  refine (requiredGen_rewrites _ _).bind fun attemptGeneration => ?_
  refine (requiredId_rewrites _ _).bind fun publisher => ?_
  refine (need_consumes (raw_spells 16) _ _).bind fun bootBytes _ ⟨spelled, width⟩ => ?_
  refine (refuse_consumes _ _ _).guarded fun _ _ => ?_
  refine (requiredGen_rewrites _ _).bind fun coordinatorIncarnation => ?_
  refine readAuthority_rewrites.bind fun authority => ?_
  refine (refuse_consumes _ _ _).guarded fun _ _ => Consumes.pure ?_
  have version_eq : version = durableFormatVersion := by simpa using current
  rw [spelled, version_eq, ← code_of_ofCode stateFound, ← code_of_ofCode applicabilityFound]
  simp only [Writer.planBinding, boot_bytes width, List.append_assoc, List.append_nil, id_eq]

/-- The fields before the lineage. -/
def planSections (plan : Plan) : List UInt8 :=
  Writer.planBinding plan ++ Writer.sequence Writer.component plan.components ++
    Writer.sequence Writer.alternative plan.alternatives ++ Writer.feasibility plan.feasibility ++
    Writer.allocation plan.allocation ++ Writer.churn plan.churn ++ Writer.i64 plan.objectiveScore ++
    Writer.str plan.explanation.str ++ Writer.digest plan.explanationDigest

/-- The words that follow the three identities of the lineage. -/
structure SpareWords where
  supersedes : UInt64
  supersededBy : UInt64
  commit : UInt64

/-- The lineage with the words that follow its identities. -/
def lineageImage (plan : Plan) (words : SpareWords) : List UInt8 :=
  Writer.str plan.supersedes.id.str ++ Writer.u64 words.supersedes ++ Writer.str plan.supersededBy.id.str ++
    Writer.u64 words.supersededBy ++ Writer.str plan.commit.str ++ Writer.u64 words.commit ++
    Writer.u64 plan.committedTick ++ Writer.u64 plan.declaredTick ++ Writer.u64 plan.proposedTick

/-- A word counts where its identity is present. -/
def Kept (plan : Plan) (words : SpareWords) : Prop :=
  plan.supersedes.generation.value = (if plan.supersedes.id.valid then words.supersedes else 0) ∧
    plan.supersededBy.generation.value = (if plan.supersededBy.id.valid then words.supersededBy else 0) ∧
    plan.commitGeneration.value = if plan.commit.valid then words.commit else 0

theorem readPlanLineage_consumes (before : Plan) : Consumes (readPlanLineage before) fun plan word =>
    planSections plan = planSections before ∧ ∃ words, word = lineageImage plan words ∧
      Kept plan words := by
  refine (optionalId_rewrites _ _).bind fun supersedes => ?_
  refine (optionalGen_consumes _ _ _).bind fun supersedesGeneration _ ⟨first, firstWord, firstKept⟩ => ?_
  refine (optionalId_rewrites _ _).bind fun superseded => ?_
  refine (optionalGen_consumes _ _ _).bind fun supersededGeneration _ ⟨second, secondWord, secondKept⟩ => ?_
  refine (optionalId_rewrites _ _).bind fun commit => ?_
  refine (optionalGen_consumes _ _ _).bind fun commitGeneration _ ⟨third, thirdWord, thirdKept⟩ => ?_
  refine (need_rewrites u64_spells _ _).bind fun committedTick => ?_
  refine (need_rewrites u64_spells _ _).bind fun declaredTick => ?_
  refine (need_rewrites u64_spells _ _).bind fun proposedTick =>
    Consumes.pure ⟨rfl, ⟨first, second, third⟩, ?_, firstKept, secondKept, thirdKept⟩
  rw [firstWord, secondWord, thirdWord]
  simp only [lineageImage, List.append_assoc, List.append_nil]

/-- The record up to the lineage. -/
def readPlanSections : Decoding Plan := do
  let plan ← readPlanBinding
  let components ← bounded 16 "objective component count is truncated"
    "objective component count exceeds the bound" readComponent
  let alternatives ← bounded Limits.maxAlternatives "alternative count is truncated"
    "alternative count exceeds the bound" readAlternative
  let feasibility ← readFeasibility
  let allocation ← readAllocation
  let churn ← readChurn
  let objectiveScore ← need Reader.i64 .truncatedInput "objective score is truncated"
  let explanation ← optionalId "explanation id is malformed" "explanation id is invalid"
  let explanationDigest ← need Reader.digest .truncatedInput "explanation digest is truncated"
  pure { plan with
    components := components
    alternatives := alternatives
    feasibility := feasibility
    allocation := allocation
    churn := churn
    objectiveScore := objectiveScore
    explanation := explanation
    explanationDigest := explanationDigest }

theorem readPlan_eq : readPlan = readPlanSections >>= readPlanLineage := by
  unfold readPlan readPlanSections
  simp only [bind_assoc, pure_bind]

theorem readPlanSections_rewrites : Rewrites readPlanSections planSections := by
  refine readPlanBinding_rewrites.bind fun plan => ?_
  refine (bounded_rewrites readComponent_rewrites _ _).bind fun components => ?_
  refine (bounded_rewrites readAlternative_rewrites _ _).bind fun alternatives => ?_
  refine readFeasibility_rewrites.bind fun feasibility => ?_
  refine readAllocation_rewrites.bind fun allocation => ?_
  refine readChurn_rewrites.bind fun churn => ?_
  refine (i64_rewrites _).bind fun objectiveScore => ?_
  refine (optionalId_rewrites _ _).bind fun explanation => ?_
  refine (need_rewrites digest_spells _ _).bind fun explanationDigest => Consumes.pure ?_
  have binding : Writer.planBinding { plan with
      components := components
      alternatives := alternatives
      feasibility := feasibility
      allocation := allocation
      churn := churn
      objectiveScore := objectiveScore
      explanation := explanation
      explanationDigest := explanationDigest } = Writer.planBinding plan := rfl
  simp only [planSections, binding, List.append_assoc, List.append_nil]

end PlanCodec

end TrafficFabric
