import TrafficFabric.AuthorityBinding
import TrafficFabric.PlanDecodes
import TrafficFabric.SolverSafety
import TrafficFabric.TextBounds

set_option autoImplicit false

/- What the solver and the verifier put into a plan stays within the bounds of the decoder, the
number of shares of a demand apart. -/
namespace TrafficFabric

/-! The bounds of a plan. -/

structure DemandAllocation.Bounded (demand : DemandAllocation) : Prop where
  named : demand.demand.valid = true ∧ demand.generation.valid = true
  count : demand.shares.length ≤ Limits.maxTotalCandidatePaths
  shares : ∀ share ∈ demand.shares, share.Readable

structure Allocation.Bounded (allocation : Allocation) : Prop where
  demandCount : allocation.demands.length ≤ Limits.maxDemands
  demands : ∀ demand ∈ allocation.demands, demand.Bounded
  resourceCount : allocation.resources.length ≤ Limits.maxResources
  resources : ∀ resource ∈ allocation.resources, resource.Readable

/-- No demand lists more shares than the decoder takes. -/
def Allocation.Narrow (allocation : Allocation) : Prop :=
  ∀ demand ∈ allocation.demands, demand.shares.length ≤ Limits.maxPathsPerDemand

/-- What the decoder checks of a plan, the number of shares of a demand apart. -/
structure Plan.Bounded (plan : Plan) : Prop where
  named : plan.id.valid = true ∧ plan.generation.valid = true
  attempt : plan.attempt.valid = true ∧ plan.attemptGeneration.valid = true
  publisher : plan.publisher.valid = true ∧ plan.publisherBoot.valid = true
  incarnation : plan.coordinatorIncarnation.valid = true
  authority : plan.authority.valid = true
  componentCount : plan.components.length ≤ 16
  alternativeCount : plan.alternatives.length ≤ Limits.maxAlternatives
  alternatives : ∀ alternative ∈ plan.alternatives, alternative.Readable
  feasibility : plan.feasibility.Readable
  allocation : plan.allocation.Bounded
  rationale : plan.churn.rationale.length ≤ Limits.maxTextLength
  supersedes : plan.supersedes.Readable
  supersededBy : plan.supersededBy.Readable
  commit : plan.commit.valid = true → plan.commitGeneration.valid = true

theorem Allocation.readable_iff (allocation : Allocation) :
    allocation.Readable ↔ allocation.Bounded ∧ allocation.Narrow := by
  constructor
  · intro readable
    refine ⟨⟨readable.demandCount, ?_, readable.resourceCount, readable.resources⟩, ?_⟩
    · intro demand member
      have readable := readable.demands demand member
      exact ⟨readable.named, readable.count.trans (by decide), readable.shares⟩
    · intro demand member
      exact (readable.demands demand member).count
  · rintro ⟨bounded, narrow⟩
    refine ⟨bounded.demandCount, ?_, bounded.resourceCount, bounded.resources⟩
    intro demand member
    exact ⟨(bounded.demands demand member).named, narrow demand member,
      (bounded.demands demand member).shares⟩

theorem Plan.readable_iff (plan : Plan) : plan.Readable ↔ plan.Bounded ∧ plan.allocation.Narrow := by
  constructor
  · intro readable
    obtain ⟨bounded, narrow⟩ := (Allocation.readable_iff _).1 readable.allocation
    exact ⟨{ readable with allocation := bounded }, narrow⟩
  · rintro ⟨bounded, narrow⟩
    exact { bounded with allocation := (Allocation.readable_iff _).2 ⟨bounded.allocation, narrow⟩ }

/-! Constraints. -/

theorem sortConstraints_mem {constraints : List BindingConstraint} {constraint : BindingConstraint}
    (member : constraint ∈ sortConstraints constraints) : constraint ∈ constraints :=
  (mem_stableSort _ _ _).1 ((List.destutter_sublist _ _).mem member)

/-- A readable summary and readable reasons make a readable finding, however many they are. -/
theorem canonicalizeBindings_readable {result : FeasibilityResult}
    (summary : result.summary.length ≤ Limits.maxTextLength)
    (binding : ∀ constraint ∈ result.binding, constraint.Readable) :
    result.canonicalizeBindings.Readable := by
  unfold FeasibilityResult.canonicalizeBindings FeasibilityResult.canonicalizeBindingsBy
  dsimp only
  split
  · refine ⟨summary, List.length_take_le _ _, ?_⟩
    intro constraint member
    exact binding constraint (sortConstraints_mem (List.mem_of_mem_take member))
  · rename_i short
    refine ⟨summary, not_lt.1 short, ?_⟩
    intro constraint member
    exact binding constraint (sortConstraints_mem member)

theorem demandSubject_within (demand : DemandId) : Within 103 (demandSubject demand) :=
  ((Within.literal "demand/").append (Within.name demand)).mono (by decide)

theorem shareSubject_within (demand : DemandId) (path : PathId) : Within 205 (shareSubject demand path) :=
  (((demandSubject_within demand).append (Within.literal "/path/")).append (Within.name path)).mono
    (by decide)

theorem overflowError_within (resource : ResourceId) : Within 130 (overflowError resource).detail :=
  (((Within.literal "resource ").append (Within.name resource)).append
    (Within.literal " accounting overflows")).mono (by decide)

theorem commitmentOf_readable {entry : ResourceResidual} {constraint : BindingConstraint}
    (member : constraint ∈ commitmentOf entry) : constraint.Readable := by
  unfold commitmentOf at member
  split at member
  · rw [List.mem_singleton] at member
    subst member
    exact ⟨((Within.literal "resource/").append (Within.name entry.resource)).mono (by decide),
      (Within.chars _).mono (by decide)⟩
  · cases member

theorem derivation_constraints {snapshot : FabricSnapshot} {constraint : BindingConstraint}
    (member : constraint ∈ (derivation snapshot).constraints) : constraint.Readable := by
  unfold derivation at member
  dsimp only at member
  rw [mem_stableSort, List.mem_flatMap] at member
  obtain ⟨entry, -, within⟩ := member
  exact commitmentOf_readable within

/-! The reasons of the verifier. -/

/-- Every reason of the list is readable. -/
def Legible (constraints : List BindingConstraint) : Prop :=
  ∀ constraint ∈ constraints, constraint.Readable

theorem Legible.nil : Legible [] := fun _ member => absurd member List.not_mem_nil

theorem Legible.append {first second : List BindingConstraint} (before : Legible first)
    (behind : Legible second) : Legible (first ++ second) := by
  intro constraint member
  rcases List.mem_append.1 member with early | late
  · exact before constraint early
  · exact behind constraint late

theorem Legible.single {constraint : BindingConstraint} (readable : constraint.Readable) :
    Legible [constraint] := by
  intro other member
  rw [List.mem_singleton] at member
  subst member
  exact readable

theorem Legible.ite {condition : Prop} [Decidable condition] {constraint : BindingConstraint}
    (readable : constraint.Readable) : Legible (if condition then [constraint] else []) := by
  split
  · exact Legible.single readable
  · exact Legible.nil

theorem Legible.map {α : Type} {items : List α} {reason : α → BindingConstraint}
    (readable : ∀ item ∈ items, (reason item).Readable) : Legible (items.map reason) := by
  intro constraint member
  obtain ⟨item, inside, rfl⟩ := List.mem_map.1 member
  exact readable item inside

theorem Legible.flatMap {α : Type} {items : List α} {reasons : α → List BindingConstraint}
    (readable : ∀ item ∈ items, Legible (reasons item)) : Legible (items.flatMap reasons) := by
  intro constraint member
  obtain ⟨item, inside, listed⟩ := List.mem_flatMap.1 member
  exact readable item inside constraint listed

theorem violation_readable {kind : ConstraintKind} {subject detail : Text} {first second : Nat}
    (named : Within first subject) (told : Within second detail) (short : max first second ≤ 512) :
    (violation kind subject detail).Readable :=
  ⟨named.mono ((le_max_left _ _).trans short), told.mono ((le_max_right _ _).trans short)⟩

section Verifying

variable (snapshot : FabricSnapshot)

theorem scanShare_legible (demand : DemandDerivation) (entry : DemandAllocation) (scan : ShareScan)
    (share : PathShare) (before : Legible scan.violations) :
    Legible (scanShare snapshot demand entry scan share).violations := by
  have subject := demandSubject_within entry.demand
  have path := shareSubject_within entry.demand share.path
  have name := Within.name share.path
  have told : ∀ literal : String, Within (literal.length + 96) (text literal ++ share.path.str) :=
    fun literal => (Within.literal literal).append name
  have start : Legible (scan.violations ++
      ((if share.granted < 0 then
        [violation .structural (demandSubject entry.demand)
          (text "negative granted bandwidth on path " ++ share.path.str)]
      else []) ++
      if scan.used.contains share.path then
        [violation .duplicateIdentity (demandSubject entry.demand)
          (text "duplicate path share for " ++ share.path.str)]
      else [])) := by
    refine before.append ((Legible.ite ?_).append (Legible.ite ?_))
    · exact violation_readable subject (told _) (by decide)
    · exact violation_readable subject (told _) (by decide)
  unfold scanShare ShareScan.report
  dsimp only
  split
  · exact start
  · split
    · exact start.append (Legible.single (violation_readable path (Within.chars _) (by decide)))
    · split
      · exact start.append (Legible.single (violation_readable path (Within.chars _) (by decide)))
      · split
        · exact start.append (Legible.single (violation_readable path (Within.chars _) (by decide)))
        · exact start.append (Legible.ite (violation_readable (told _) (Within.chars _) (by decide)))

theorem entryViolations_legible (degraded : Bool) (demand : DemandDerivation) (entry : DemandAllocation)
    (scan : ShareScan) : Legible (entryViolations degraded demand entry scan) := by
  have subject := demandSubject_within entry.demand
  unfold entryViolations
  dsimp only
  refine ((((Legible.ite ?_).append (Legible.ite ?_)).append (Legible.ite ?_)).append
    (Legible.ite ?_)).append (Legible.ite ?_)
  all_goals exact violation_readable subject (Within.chars _) (by decide)

theorem verifyEntry_legible (expected : OrdMap DemandId DemandDerivation) (degraded : Bool)
    (state : EntryScan) (entry : DemandAllocation) (before : Legible state.violations) :
    Legible (verifyEntry snapshot expected degraded state entry).violations := by
  unfold verifyEntry
  split
  · exact before
  · rename_i demand known
    split
    · refine before.append (Legible.single ?_)
      exact violation_readable (demandSubject_within entry.demand) (Within.chars _) (by decide)
    · refine Legible.append ?_ (entryViolations_legible degraded demand entry _)
      have scanned : ∀ (shares : List PathShare) (scan : ShareScan), Legible scan.violations →
          Legible (shares.foldl (scanShare snapshot demand entry) scan).violations := by
        intro shares
        induction shares with
        | nil => exact fun _ legible => legible
        | cons share rest ih =>
            intro scan legible
            exact ih _ (scanShare_legible snapshot demand entry scan share legible)
      exact scanned entry.shares _ before

theorem verifyEntries_legible (expected : OrdMap DemandId DemandDerivation) (degraded : Bool)
    (entries : List DemandAllocation) (state : EntryScan) (before : Legible state.violations) :
    Legible (entries.foldl (verifyEntry snapshot expected degraded) state).violations := by
  induction entries generalizing state with
  | nil => exact before
  | cons entry rest ih =>
      exact ih _ (verifyEntry_legible snapshot expected degraded state entry before)

variable {snapshot}

/-- Whatever the allocation, the verifier's reasons are readable. -/
theorem verifyAllocation_legible (accepted : Accepted snapshot) (allocation : Allocation) :
    Legible (verifyAllocation snapshot allocation) := by
  unfold verifyAllocation
  rw [derive_eq accepted]
  cases overflowingResource snapshot with
  | some entry =>
      have format := Error.within (overflowError_within entry.resource)
      have told := (Within.literal "derivation failed: ").append format
      exact Legible.single (violation_readable (Within.chars _) told (by decide))
  | none =>
      intro constraint member
      refine Legible.append ?_ ?_ constraint (sortConstraints_mem member)
      · refine verifyEntries_legible snapshot _ _ _ _ (Legible.flatMap ?_)
        intro entry _
        exact Legible.ite
          (violation_readable (demandSubject_within entry.demand) (Within.chars _) (by decide))
      · refine Legible.flatMap ?_
        intro resource _
        refine Legible.ite ?_
        exact ⟨((Within.literal "resource/").append (Within.name resource.resource)).mono (by decide),
          (Within.chars _).mono (by decide)⟩

end Verifying

/-! The reasons and the summary of a verdict. -/

theorem capSummary_within {policy : Policy}
    (cap : 0 < policy.maxUtilizationPermille ∧ policy.maxUtilizationPermille ≤ 1000) :
    Within 200 (capSummary policy) := by
  have small : policy.maxUtilizationPermille.natAbs < 10 ^ 4 := by omega
  have digits := Within.number (by decide) small
  exact (((Within.chars _).append digits).append (Within.chars _)).mono (by decide)

theorem cutConstraint_readable {detail : Text} {limit : Nat} (told : Within limit detail)
    (short : limit ≤ 512) (resource : ResourceId) : (cutConstraint resource detail).Readable :=
  ⟨((Within.literal "resource/").append (Within.name resource)).mono (by decide), told.mono short⟩

theorem capConstraint_readable (policy : Policy) (certificate : Certificate) :
    (capConstraint policy certificate).Readable :=
  ⟨((Within.literal "policy/").append (Within.name policy.id)).mono (by decide),
    (Within.chars _).mono (by decide)⟩

theorem unmetConstraints_legible (problem : Problem) {detail : Text} {limit : Nat}
    (told : Within limit detail) (short : limit ≤ 512) : Legible (unmetConstraints problem detail) := by
  refine Legible.map ?_
  intro demand _
  exact ⟨(demandSubject_within demand.demand).mono (by decide), told.mono short⟩

/-- The summary and the reasons of the verdict fit. -/
def Verdict.Readable (verdict : Verdict) : Prop := Within 512 verdict.summary ∧ Legible verdict.binding

set_option maxRecDepth 1024 in
theorem limitSummary_within : Within 512 limitSummary := (Within.chars _).mono (by decide)

section Deciding

variable {policy : Policy}
variable (cap : 0 < policy.maxUtilizationPermille ∧ policy.maxUtilizationPermille ≤ 1000)

include cap

theorem certifiedVerdict_readable (problem : Problem) (certificate : Certificate) :
    (certifiedVerdict policy problem certificate).Readable := by
  have fabric : ∀ required available slack : Int, BindingConstraint.Readable
      { kind := .minCutCertificate
        subject := text "fabric"
        required := required
        available := available
        slack := slack
        detail := text "a minimum cut over the relaxed eligibility network proves the declared hard minimums cannot all be carried" } :=
    fun _ _ _ => ⟨(Within.chars _).mono (by decide), (Within.chars _).mono (by decide)⟩
  have cuts : Legible (certificate.saturatedResources.map fun resource =>
      cutConstraint resource (text "resource on the sink side of a minimum cut")) :=
    Legible.map fun resource _ => cutConstraint_readable (Within.chars _) (by decide) resource
  have unmet : Legible (unmetConstraints problem (text "the demand hard floor could not be placed")) :=
    unmetConstraints_legible problem (Within.chars _) (by decide)
  unfold certifiedVerdict
  dsimp only
  split
  · exact ⟨(Within.chars _).mono (by decide), ((Legible.single (fabric _ _ _)).append cuts).append unmet⟩
  · split
    · have listed := Legible.single (capConstraint_readable policy certificate)
      exact ⟨(capSummary_within cap).mono (by decide),
        (((Legible.single (fabric _ _ _)).append cuts).append listed).append unmet⟩
    · exact ⟨(Within.chars _).mono (by decide), ((Legible.single (fabric _ _ _)).append cuts).append unmet⟩

theorem verdictOf_readable (options : SolveOptions) (problem : Problem) (conflict : Bool) :
    (verdictOf policy options problem conflict).Readable := by
  have unmet : Legible (boundedSearchUnmet problem) :=
    unmetConstraints_legible problem (Within.chars _) (by decide)
  unfold verdictOf
  split
  · exact ⟨(Within.chars _).mono (by decide), Legible.nil⟩
  · split
    · exact ⟨(Within.chars _).mono (by decide), Legible.nil⟩
    · split
      · exact ⟨(Within.chars _).mono (by decide), Legible.nil⟩
      · dsimp only
        split
        · exact certifiedVerdict_readable cap problem _
        · split
          · exact ⟨(Within.chars _).mono (by decide), unmet⟩
          · unfold Verdict.Readable
            dsimp only
            refine ⟨limitSummary_within, (Legible.single ?_).append unmet⟩
            unfold BindingConstraint.Readable
            dsimp only
            exact ⟨(Within.literal "solver").mono (by decide), limitSummary_within⟩

end Deciding

/-! What the solver finds. -/

/-- The number of paths a demand may be spread over. -/
def shareLimit (snapshot : FabricSnapshot) (demand : Demand) : Nat :=
  pathLimit snapshot.policy (eligibleSorted demand (planningPaths snapshot)).length

theorem shareLimit_le_paths {snapshot : FabricSnapshot} (accepted : Accepted snapshot) (demand : Demand) :
    shareLimit snapshot demand ≤ Limits.maxTotalCandidatePaths := by
  have eligible : (eligibleSorted demand (planningPaths snapshot)).length ≤ snapshot.paths.length := by
    unfold eligibleSorted
    rw [(stableSort_perm pathKey _).length_eq]
    refine (List.length_filter_le _ _).trans ?_
    unfold planningPaths
    rw [List.length_map]
  refine le_trans ?_ (eligible.trans accepted.paths_length)
  unfold shareLimit pathLimit
  split
  · exact le_refl _
  · exact min_le_left _ _

structure SolveOutcome.Bounded (snapshot : FabricSnapshot) (outcome : SolveOutcome) : Prop where
  componentCount : outcome.components.length ≤ 16
  alternativeCount : outcome.alternatives.length ≤ Limits.maxAlternatives
  alternatives : ∀ alternative ∈ outcome.alternatives, alternative.Readable
  feasibility : outcome.feasibility.Readable
  allocation : outcome.allocation.Bounded
  spread : ∀ entry ∈ outcome.allocation.demands, ∃ demand ∈ snapshot.demands,
    entry.demand = demand.id ∧ entry.shares.length ≤ shareLimit snapshot demand

theorem alternativeOf_readable (problem : Problem) (state : DemandState)
    (demand : DemandId) (path : PathId) :
    (alternativeOf problem state demand path).Readable := by
  refine ⟨(shareSubject_within demand path).mono (by decide), ?_⟩
  unfold alternativeOf
  dsimp only
  split
  · exact (Within.chars _).mono (by decide)
  · split
    · exact (Within.chars _).mono (by decide)
    · exact (Within.chars _).mono (by decide)

theorem alternativesOf_readable {problem : Problem} {options : SolveOptions} {recorded : Nat}
    {demand : DemandId} {alternative : RejectedAlternative}
    (member : alternative ∈ alternativesOf problem options recorded demand) : alternative.Readable := by
  unfold alternativesOf at member
  dsimp only at member
  split at member
  · cases member
  · obtain ⟨path, -, rfl⟩ := List.mem_map.1 member
    exact alternativeOf_readable problem _ demand path

theorem alternativesOf_length (problem : Problem) (options : SolveOptions) (recorded : Nat)
    (demand : DemandId) :
    (alternativesOf problem options recorded demand).length ≤ Limits.maxAlternatives - recorded := by
  unfold alternativesOf
  dsimp only
  split
  · exact Nat.zero_le _
  · rw [List.length_map]
    exact List.length_take_le _ _

theorem collectAlternatives_bounded (problem : Problem) (options : SolveOptions) (order : List DemandId) :
    (collectAlternatives problem options order).length ≤ Limits.maxAlternatives ∧
      ∀ alternative ∈ collectAlternatives problem options order, alternative.Readable := by
  have gathered : ∀ recorded : List RejectedAlternative, recorded.length ≤ Limits.maxAlternatives →
      (∀ alternative ∈ recorded, alternative.Readable) →
      (order.foldl (fun recorded demand =>
          recorded ++ alternativesOf problem options recorded.length demand) recorded).length ≤
          Limits.maxAlternatives ∧
        ∀ alternative ∈ order.foldl (fun recorded demand =>
          recorded ++ alternativesOf problem options recorded.length demand) recorded,
          alternative.Readable := by
    induction order with
    | nil => exact fun _ short readable => ⟨short, readable⟩
    | cons demand rest ih =>
        intro recorded short readable
        refine ih _ ?_ ?_
        · have added := alternativesOf_length problem options recorded.length demand
          rw [List.length_append]
          omega
        · intro alternative member
          rcases List.mem_append.1 member with before | added
          · exact readable alternative before
          · exact alternativesOf_readable added
  obtain ⟨short, readable⟩ := gathered [] (Nat.zero_le _) fun _ member => absurd member List.not_mem_nil
  unfold collectAlternatives
  refine ⟨?_, ?_⟩
  · rw [(stableSort_perm RejectedAlternative.key _).length_eq]
    exact short
  · intro alternative member
    exact readable alternative ((mem_stableSort _ _ _).1 member)

section Concluded

variable {snapshot : FabricSnapshot} (accepted : Accepted snapshot)
variable {problem : Problem} {permille : Int} (safe : problem.Safe snapshot permille)
variable (options : SolveOptions)

include accepted safe

/-- A demand is not spread over more paths than are eligible for it. -/
theorem entryOf_spread {demand : Demand} (member : demand ∈ snapshot.demands) :
    (entryOf options problem (derivedDemand snapshot demand)).shares.length ≤
      shareLimit snapshot demand := by
  have eligible : ((entryOf options problem (derivedDemand snapshot demand)).shares.map
      PathShare.path).length ≤ (derivedDemand snapshot demand).eligiblePaths.length := by
    refine (List.Nodup.subperm (entryOf_paths_nodup accepted safe member options) ?_).length_le
    intro path listed
    obtain ⟨share, inside, rfl⟩ := List.mem_map.1 listed
    exact (entryOf_share accepted safe member options inside).2.1
  rw [List.length_map] at eligible
  refine eligible.trans ?_
  by_cases active : demand.effective.covers snapshot.evaluationTick = true
  · rw [derivedDemand_eligiblePaths active, List.length_map]
    exact List.length_take_le _ _
  · have inactive : demand.effective.covers snapshot.evaluationTick = false := by simpa using active
    rw [(derivedDemand_inactive inactive).1]
    exact Nat.zero_le _

theorem entryOf_bounded {demand : Demand} (member : demand ∈ snapshot.demands) :
    (entryOf options problem (derivedDemand snapshot demand)).Bounded := by
  refine ⟨?_, (entryOf_spread accepted safe options member).trans (shareLimit_le_paths accepted demand), ?_⟩
  · show (derivedDemand snapshot demand).demand.valid = true ∧
      (derivedDemand snapshot demand).generation.valid = true
    rw [derivedDemand_demand, derivedDemand_generation]
    exact accepted.demand_named member
  · intro share listed
    obtain ⟨-, -, found, generation⟩ := entryOf_share accepted safe member options listed
    obtain ⟨inside, same⟩ := findPath_mem found
    obtain ⟨candidate, among, facts⟩ := List.mem_map.1 inside
    obtain ⟨named, numbered⟩ := accepted.path_named among
    constructor
    · rw [← same, ← facts]
      exact named
    · rw [generation, ← facts]
      exact numbered

theorem buildAllocation_bounded (degraded : Bool) :
    Allocation.Bounded { buildAllocation options problem with degraded := degraded } := by
  have derived := safe.consistent.built.derivation
  have entries := (stableSort_perm DemandAllocation.demand
    (problem.derivation.demands.map (entryOf options problem))).length_eq
  refine ⟨?_, ?_, ?_, ?_⟩
  · show (stableSort DemandAllocation.demand _).length ≤ _
    rw [entries, derived, derivation, List.length_map, List.length_map]
    exact accepted.demands_length
  · intro entry member
    obtain ⟨demand, inside, rfl⟩ := (mem_buildAllocation safe options).1 member
    exact entryOf_bounded accepted safe options inside
  · show (problem.derivation.residuals.map (utilizationOf problem)).length ≤ _
    rw [derived, derivation, List.length_map, List.length_map]
    exact accepted.capacity_checks.1
  · intro resource member
    change resource ∈ problem.derivation.residuals.map (utilizationOf problem) at member
    rw [derived, derivation, List.map_map] at member
    obtain ⟨source, inside, rfl⟩ := List.mem_map.1 member
    exact accepted.resource_named inside

theorem conclude_bounded (iterations : Nat) (notes : List Text) (ceiling : Int) (conflict : Bool) :
    (conclude snapshot (derivation snapshot) options problem iterations notes ceiling conflict).Bounded
      snapshot := by
  obtain ⟨summary, reasons⟩ := verdictOf_readable accepted.policy_cap options problem conflict
  have alternatives := collectAlternatives_bounded problem options
    (canonicalProcessingOrder (derivation snapshot))
  refine ⟨?_, alternatives.1, alternatives.2, ?_, ?_, ?_⟩
  · show (snapshot.objective.terms.map _).length ≤ 16
    rw [List.length_map]
    exact accepted.terms_length
  · refine canonicalizeBindings_readable ?_ ?_
    · dsimp only
      split
      · exact summary
      · exact (Within.chars _).mono (by decide)
    · have start : Legible (derivation snapshot).constraints := fun _ => derivation_constraints
      exact (start.append reasons).append (verifyAllocation_legible accepted _)
  · exact buildAllocation_bounded accepted safe options _
  · intro entry member
    obtain ⟨demand, inside, rfl⟩ := (mem_buildAllocation safe options).1 member
    exact ⟨demand, inside, derivedDemand_demand snapshot demand,
      entryOf_spread accepted safe options inside⟩

end Concluded

/-- An outcome without an allocation. -/
theorem SolveOutcome.Bounded.bare {snapshot : FabricSnapshot} {outcome : SolveOutcome}
    (components : outcome.components = []) (alternatives : outcome.alternatives = [])
    (allocation : outcome.allocation = default) (feasibility : outcome.feasibility.Readable) :
    outcome.Bounded snapshot := by
  refine ⟨?_, ?_, ?_, feasibility, ⟨?_, ?_, ?_, ?_⟩, ?_⟩
  · simp [components]
  · simp [alternatives]
  · simp [alternatives]
  · rw [allocation]
    exact Nat.zero_le _
  · rw [allocation]
    exact fun _ member => absurd member List.not_mem_nil
  · rw [allocation]
    exact Nat.zero_le _
  · rw [allocation]
    exact fun _ member => absurd member List.not_mem_nil
  · rw [allocation]
    exact fun _ member => absurd member List.not_mem_nil

theorem refusal_bounded {snapshot : FabricSnapshot} (status : FeasibilityStatus) {summary : Text}
    {binding : List BindingConstraint} (told : Within 512 summary) (reasons : Legible binding) :
    (refusal (derivation snapshot) status summary binding).Bounded snapshot :=
  SolveOutcome.Bounded.bare rfl rfl rfl (canonicalizeBindings_readable told reasons)

theorem ObjectiveTerm.within (term : ObjectiveTerm) : Within 64 term.toText := by
  cases term <;> exact (Within.chars _).mono (by decide)

/-- Whatever the solver answers for an accepted snapshot is within the bounds. -/
theorem solve_bounded {snapshot : FabricSnapshot} {options : SolveOptions} {outcome : SolveOutcome}
    (accepted : Accepted snapshot) (solved : solve snapshot options = .ok outcome) :
    outcome.Bounded snapshot := by
  have cap := accepted.policy_cap
  have planned : ∀ ceiling conflict, 0 ≤ ceiling → ceiling ≤ snapshot.policy.maxUtilizationPermille →
      (plan snapshot (derivation snapshot) options ceiling conflict).Bounded snapshot := by
    intro ceiling conflict nonneg bounded
    obtain ⟨permille, -, -, safe⟩ := constructed_safe accepted options nonneg bounded
    exact conclude_bounded accepted safe options _ _ _ _
  have value : outcome = solveDerived snapshot (derivation snapshot) options := by
    unfold solve at solved
    split at solved
    · cases solved
    · rw [derive_eq accepted] at solved
      cases overflow : overflowingResource snapshot with
      | some entry =>
          rw [overflow] at solved
          cases solved
      | none =>
          rw [overflow] at solved
          exact (Except.ok.inj solved).symm
  have start : Legible (derivation snapshot).constraints := fun _ => derivation_constraints
  rw [value]
  unfold solveDerived
  split
  · rename_i term found
    have told := ((Within.literal "objective term ").append term.term.within).append
      (Within.literal " declares a negative weight, which this solver does not support")
    exact SolveOutcome.Bounded.bare rfl rfl rfl
      ⟨told.mono (by decide), Nat.zero_le _, Legible.nil⟩
  · dsimp only
    split
    · split
      · have cuts : ∀ certificate : Certificate, Legible (certificate.saturatedResources.map fun resource =>
            cutConstraint resource (text "this resource is on the sink side of a minimum cut")) :=
          fun _ => Legible.map fun resource _ =>
            cutConstraint_readable (Within.chars _) (by decide) resource
        unfold searchRefusal
        dsimp only
        split
        · refine refusal_bounded _ ((capSummary_within cap).mono (by decide)) ?_
          exact (start.append (Legible.single (capConstraint_readable _ _))).append (cuts _)
        · exact refusal_bounded _ ((Within.chars _).mono (by decide)) (start.append (cuts _))
      · have range := tightestCeiling_range (makeProblem snapshot (derivation snapshot))
          Limits.maxMaxUtilizationProbes 1 snapshot.policy.maxUtilizationPermille 0
        exact planned _ _ (by omega) (by omega)
    · exact planned _ _ (by omega) (le_refl _)

/-- The refusals of the solver are short. -/
theorem solve_error_within {snapshot : FabricSnapshot} {options : SolveOptions} {reason : Error}
    (accepted : Accepted snapshot) (failed : solve snapshot options = .error reason) :
    Within 512 reason.format := by
  unfold solve at failed
  split at failed
  · cases failed
    exact (Error.within (Within.chars _)).mono (by decide)
  · rw [derive_eq accepted] at failed
    cases overflow : overflowingResource snapshot with
    | some entry =>
        rw [overflow] at failed
        cases failed
        exact (Error.within (overflowError_within entry.resource)).mono (by decide)
    | none =>
        rw [overflow] at failed
        cases failed

end TrafficFabric
