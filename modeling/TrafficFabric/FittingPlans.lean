import TrafficFabric.EngineLog
import TrafficFabric.PlanBounds
import TrafficFabric.PlanChecks

set_option autoImplicit false

/- The plans the engine writes are within the bounds of the decoder. The repository keeps, beside its
log, what it was asked to append, whether the append succeeded or not. -/
namespace TrafficFabric

/-- The durable side, with the payloads it was asked to append. -/
abbrev observed : Storage :=
  { Repository := Journal × List (List UInt8)
    append := fun repository type payload =>
      ((repository.1.append type payload).1,
        ((repository.1.append type payload).2, repository.2 ++ [payload]))
    records := fun repository => repository.1.repository.records
    encodePlan := TrafficFabric.encodePlan
    decodePlan := TrafficFabric.decodePlan }

/-- A record is only decoded to a plan that the decoder of the repository would take. -/
def Storage.Checked (storage : Storage) : Prop :=
  ∀ payload plan, storage.decodePlan payload = .ok plan → plan.Readable

theorem observed_checked : observed.Checked := fun _ _ decoded => readable_of_decodePlan decoded

/-- The plan is within the bounds of the decoder; where the fabrics are narrow, in all of them. -/
def Plan.Fits (narrow : Prop) (plan : Plan) : Prop :=
  plan.Bounded ∧ (narrow → plan.allocation.Narrow)

theorem Plan.Readable.fits {plan : Plan} (readable : plan.Readable) (narrow : Prop) : plan.Fits narrow :=
  ⟨((Plan.readable_iff plan).1 readable).1, fun _ => ((Plan.readable_iff plan).1 readable).2⟩

/-- The counts of a plan within the bounds are written as they are. -/
theorem Plan.Bounded.record {plan : Plan} (bounded : plan.Bounded) : FitsRecord plan := by
  have counts : ∀ {count limit : Nat}, count ≤ limit → limit < 2 ^ 32 → FitsCount count :=
    fun few small => lt_of_le_of_lt few small
  refine ⟨counts bounded.componentCount (by decide), counts bounded.alternativeCount (by decide), ?_,
    counts bounded.feasibility.summary (by decide), counts bounded.feasibility.count (by decide), ?_,
    counts bounded.allocation.demandCount (by decide), ?_,
      counts bounded.allocation.resourceCount (by decide),
    counts bounded.rationale (by decide)⟩
  · intro alternative member
    have readable := bounded.alternatives alternative member
    exact ⟨counts readable.1 (by decide), counts readable.2 (by decide)⟩
  · intro constraint member
    have readable := bounded.feasibility.binding constraint member
    exact ⟨counts readable.1 (by decide), counts readable.2 (by decide)⟩
  · intro demand member
    exact counts (bounded.allocation.demands demand member).count (by decide)

/-- A plan within the bounds is read back exactly when no demand lists too many shares. -/
theorem decodes_iff {plan : Plan} (bounded : plan.Bounded) :
    (∃ read, decodePlan (encodePlan plan) = .ok read) ↔ plan.allocation.Narrow := by
  constructor
  · rintro ⟨read, decoded⟩
    have same := decodePlan_encodePlan bounded.record decoded
    have narrow := ((Plan.readable_iff read).1 (readable_of_decodePlan decoded)).2
    intro demand member
    have durable : demand.durable ∈ read.allocation.demands := by
      rw [same]
      exact List.mem_map_of_mem member
    have count := narrow demand.durable durable
    have kept : demand.durable.shares.length = demand.shares.length := List.length_map _
    omega
  · intro narrow
    exact ⟨plan.durable, decodePlan_of_readable ((Plan.readable_iff plan).2 ⟨bounded, narrow⟩)⟩

/-- The policy bounds the paths of a demand, or no demand has more eligible ones than the decoder
takes. -/
def Bundled (snapshot : FabricSnapshot) : Prop :=
  snapshot.policy.maxPathsPerDemand ≠ 0 ∨ ∀ demand ∈ snapshot.demands,
    (eligibleSorted demand (planningPaths snapshot)).length ≤ Limits.maxPathsPerDemand

theorem Bundled.shareLimit_le {snapshot : FabricSnapshot} (bundled : Bundled snapshot)
    (accepted : Accepted snapshot) {demand : Demand} (member : demand ∈ snapshot.demands) :
    shareLimit snapshot demand ≤ Limits.maxPathsPerDemand := by
  have bound := accepted.policy_range.2.2.2
  unfold shareLimit pathLimit
  split
  · rename_i unbounded
    rcases bundled with limited | few
    · exact absurd unbounded limited
    · exact few demand member
  · exact (min_le_right _ _).trans bound

/-- The solver spreads a demand of a narrow fabric over no more paths than the decoder takes. -/
theorem SolveOutcome.Bounded.narrow {snapshot : FabricSnapshot} {outcome : SolveOutcome}
    (bounded : outcome.Bounded snapshot) (accepted : Accepted snapshot) (bundled : Bundled snapshot) :
    outcome.allocation.Narrow := by
  intro entry member
  obtain ⟨demand, inside, -, spread⟩ := bounded.spread entry member
  exact spread.trans (bundled.shareLimit_le accepted inside)

namespace Engine

/-- What the repository was asked to append. -/
def asked (engine : Engine observed) : List (List UInt8) :=
  match engine.repository with
  | none => []
  | some repository => repository.2

variable {storage : Storage}

/-- The engine knows plans that fit only, and a snapshot that was accepted. -/
structure Sized (narrow : Prop) (engine : Engine storage) : Prop where
  plans : ∀ id plan, engine.plans.find? id = some plan → plan.Fits narrow
  live : engine.liveValid = true → ∃ snapshot, engine.snapshot = some snapshot ∧ Accepted snapshot ∧
    engine.live = authorityOf snapshot ∧ (narrow → Bundled snapshot)

theorem Sized.snapshot {narrow : Prop} {engine : Engine storage} (sized : Sized narrow engine)
    (live : engine.liveValid = true) :
    Accepted engine.liveSnapshot ∧ (narrow → Bundled engine.liveSnapshot) := by
  obtain ⟨snapshot, held, accepted, -, bundled⟩ := sized.live live
  have same : engine.liveSnapshot = snapshot := by
    unfold liveSnapshot
    rw [held]
    rfl
  rw [same]
  exact ⟨accepted, bundled⟩

/-- The repository was asked for records of plans that fit, one after the other, whatever it answered. -/
inductive Asks (narrow : Prop) : Option storage.Repository → Option storage.Repository → Prop
  | nothing (repository : Option storage.Repository) : Asks narrow repository repository
  | more {repository : storage.Repository} {last : Option storage.Repository} {plan : Plan}
      (fits : plan.Fits narrow)
      (later : Asks narrow (some (storage.append repository .plan (storage.encodePlan plan)).2) last) :
      Asks narrow (some repository) last

/-- Between the two engines the repository was asked for records of plans that fit. -/
structure Tells (narrow : Prop) (before after : Engine storage) : Prop where
  sized : Sized narrow after
  asks : Asks narrow before.repository after.repository

section Steps

variable {narrow : Prop} {engine : Engine storage}

theorem Asks.trans {first second third : Option storage.Repository} (before : Asks narrow first second)
    (behind : Asks narrow second third) : Asks narrow first third := by
  induction before with
  | nothing repository => exact behind
  | more fits _ ih => exact Asks.more fits (ih behind)

theorem Asks.writeAll {written : List Plan} (fits : ∀ plan ∈ written, plan.Fits narrow)
    (repository : Option storage.Repository) :
    Asks narrow repository (Engine.writeAll repository written).2 := by
  induction written generalizing repository with
  | nil =>
      rw [writeAll_nil]
      exact Asks.nothing repository
  | cons plan rest ih =>
      cases repository with
      | none =>
          rw [writeAll_none]
          exact Asks.nothing none
      | some repository =>
          have first := fits plan List.mem_cons_self
          have later := ih fun other member => fits other (List.mem_cons_of_mem plan member)
          refine Asks.more first ?_
          rw [writeAll_cons]
          cases storage.append repository .plan (storage.encodePlan plan) with
          | mk answer next =>
              cases answer with
              | error reason => exact Asks.nothing (some next)
              | ok => exact later (some next)

/-- What was asked for is kept beside the log. -/
theorem Asks.observed {first last : Option observed.Repository}
    (asks : @Asks observed narrow first last) :
    ∃ written : List Plan,
      (last.elim [] Prod.snd : List (List UInt8)) = first.elim [] Prod.snd ++ written.map encodePlan ∧
        ∀ plan ∈ written, plan.Fits narrow := by
  induction asks with
  | nothing repository =>
      exact ⟨[], (List.append_nil _).symm, fun _ member => absurd member List.not_mem_nil⟩
  | @more repository last plan fits _ ih =>
      obtain ⟨written, same, fitting⟩ := ih
      refine ⟨plan :: written, ?_, List.forall_mem_cons.2 ⟨fits, fitting⟩⟩
      rw [same]
      show (repository.2 ++ [encodePlan plan]) ++ _ = repository.2 ++ _
      rw [List.append_assoc]
      rfl

theorem Tells.refl (sized : Sized narrow engine) : Tells narrow engine engine := ⟨sized, Asks.nothing _⟩

theorem Tells.trans {middle after : Engine storage} (first : Tells narrow engine middle)
    (second : Tells narrow middle after) : Tells narrow engine after :=
  ⟨second.sized, first.asks.trans second.asks⟩

theorem asked_elim (engine : Engine observed) : engine.asked = engine.repository.elim [] Prod.snd := by
  unfold asked
  cases engine.repository <;> rfl

/-- Plans that fit are stored and written. -/
theorem Tells.written {counted after : Engine storage} (sized : Sized narrow engine)
    (frame : Counted engine counted) (written : List Plan) (fits : ∀ plan ∈ written, plan.Fits narrow)
    (wrote : after = { counted with
      plans := storeAll counted.plans written
      repository := (writeAll counted.repository written).2 }) : Tells narrow engine after := by
  subst wrote
  refine ⟨⟨?_, ?_⟩, ?_⟩
  · intro id plan found
    rw [frame.plans] at found
    rcases find?_storeAll found with ⟨member, -⟩ | ⟨before, -⟩
    · exact fits plan member
    · exact sized.plans id plan before
  · intro valid
    change counted.liveValid = true at valid
    rw [frame.liveValid] at valid
    obtain ⟨snapshot, held, rest⟩ := sized.live valid
    exact ⟨snapshot, frame.snapshot.trans held, rest.1, frame.live.trans rest.2.1, rest.2.2⟩
  · rw [frame.repository]
    exact Asks.writeAll fits engine.repository

theorem Tells.record {α : Type} {counted : Engine storage} {plan : Plan} {answer : Result α}
    (sized : Sized narrow engine) (frame : Counted engine counted) (fits : plan.Fits narrow) :
    Tells narrow engine (counted.record plan answer).2 := by
  refine Tells.written sized frame [plan] ?_ ?_
  · intro other member
    rw [List.mem_singleton] at member
    subst member
    exact fits
  · rw [record_write]

theorem Tells.recordBoth {α : Type} {counted : Engine storage} {first second : Plan} {answer : Result α}
    (sized : Sized narrow engine) (frame : Counted engine counted) (fits : first.Fits narrow)
    (fitting : second.Fits narrow) : Tells narrow engine (counted.recordBoth first second answer).2 := by
  refine Tells.written sized frame [first, second] ?_ ?_
  · intro other member
    rcases List.mem_cons.1 member with rfl | member
    · exact fits
    · rw [List.mem_singleton] at member
      subst member
      exact fitting
  · rw [recordBoth_write]

theorem Tells.store {plan : Plan} (sized : Sized narrow engine) (fits : plan.Fits narrow) :
    Tells narrow engine (engine.store plan) := by
  refine ⟨⟨?_, sized.live⟩, Asks.nothing _⟩
  intro id later found
  rcases find?_insert_cases found with ⟨-, rfl⟩ | ⟨-, before⟩
  · exact fits
  · exact sized.plans id later before

/-! The plans a call makes. -/

section Plans

variable {plan : Plan}

/-- The state of the plan is not checked. -/
theorem fits_moved (fits : plan.Fits narrow) (state : PlanState) (applicability : PlanApplicability) :
    Plan.Fits narrow { plan with state := state, applicability := applicability } :=
  ⟨{ fits.1 with }, fits.2⟩

theorem fits_summarized (fits : plan.Fits narrow) (state : PlanState) (applicability : PlanApplicability)
    (status : FeasibilityStatus) {summary : Text} (told : Within 512 summary) :
    Plan.Fits narrow { plan with
      state := state
      applicability := applicability
      feasibility := { plan.feasibility with status := status, summary := summary } } :=
  ⟨{ fits.1 with feasibility := ⟨told, fits.1.feasibility.count, fits.1.feasibility.binding⟩ }, fits.2⟩

theorem deltaOf_weight (engine : Engine storage) (plan : Plan) : (engine.deltaOf plan).weight ≤ 456 :=
  compareAuthority_weight plan.authority engine.live

/-- The reasons a verification adds are as readable as those before them. -/
theorem unverified_fits (fits : plan.Fits narrow) {violations : List BindingConstraint}
    (reasons : Legible (plan.feasibility.binding ++ violations)) :
    Plan.Fits narrow { plan with
      state := .rejected
      feasibility := FeasibilityResult.canonicalizeBindings { plan.feasibility with
        summary := text "pre-commit verification failed"
        binding := plan.feasibility.binding ++ violations } } :=
  ⟨{ fits.1 with feasibility := canonicalizeBindings_readable ((Within.chars _).mono (by decide)) reasons },
    fits.2⟩

theorem outdated_fits (fits : plan.Fits narrow) :
    Plan.Fits narrow (outdated plan (engine.deltaOf plan)) := by
  have weight := deltaOf_weight engine plan
  have described := (Within.literal "stale: ").append (AuthorityDelta.describe_within (engine.deltaOf plan))
  have prefixed : "stale: ".length = 7 := rfl
  exact fits_summarized fits _ _ _ (described.mono (by omega))

theorem rejected_fits (fits : plan.Fits narrow) {summary : Text} (told : Within 512 summary) :
    Plan.Fits narrow (rejectedFor plan summary) :=
  fits_summarized fits _ _ _ told

theorem contradicted_fits (fits : plan.Fits narrow) (fresh : (engine.deltaOf plan).stale = false) :
    Plan.Fits narrow
      (rejectedFor plan (text "conflicting authority: " ++ (engine.deltaOf plan).describe)) := by
  have weight := deltaOf_weight engine plan
  have described := (Within.literal "conflicting authority: ").append
    (AuthorityDelta.describe_within_fresh fresh)
  have prefixed : "conflicting authority: ".length = 23 := rfl
  exact rejected_fits fits (described.mono (by omega))

/-- A plan that is declared fits. -/
theorem declared_fits (sized : Sized narrow engine) (live : engine.liveValid = true)
    {request : DeclareRequest}
    (named : request.planId.valid = true)
    (attempt : request.attempt.valid = true ∧ request.attemptGeneration.valid = true)
    (publisher : request.publisher.valid = true ∧ request.publisherBoot.valid = true)
    (incarnation : engine.config.coordinatorIncarnation.valid = true) :
    Plan.Fits narrow (engine.declaredPlan request) := by
  obtain ⟨snapshot, -, accepted, same, -⟩ := sized.live live
  have none : ∀ {α : Type} {holds : α → Prop}, ∀ item ∈ ([] : List α), holds item :=
    fun _ member => absurd member List.not_mem_nil
  have authority : engine.live.valid = true := by
    rw [same]
    exact authorityOf_valid accepted
  refine ⟨?_, fun _ => none⟩
  exact
    { named := ⟨named, rfl⟩
      attempt := attempt
      publisher := publisher
      incarnation := incarnation
      authority := authority
      componentCount := Nat.zero_le _
      alternativeCount := Nat.zero_le _
      alternatives := none
      feasibility := ⟨Nat.zero_le _, Nat.zero_le _, none⟩
      allocation := ⟨Nat.zero_le _, none, Nat.zero_le _, none⟩
      rationale := Nat.zero_le _
      supersedes := nofun
      supersededBy := nofun
      commit := nofun }

theorem churnOf_within {snapshot : FabricSnapshot} (accepted : Accepted snapshot) (pending : PendingSolve)
    {plan : Plan} (before : Within 512 plan.churn.rationale) :
    Within 512 (churnOf snapshot pending plan).rationale := by
  unfold churnOf
  split
  · exact before
  · split
    · exact compareChurn_within accepted _ _ _ _
    · exact (Within.chars _).mono (by decide)

/-- What the solver proposes fits, and in a narrow fabric in all of the bounds. -/
theorem proposal_fits (sized : Sized narrow engine) (live : engine.liveValid = true)
    (fits : plan.Fits narrow)
    {options : SolveOptions} {outcome : SolveOutcome}
    (found : TrafficFabric.solve engine.liveSnapshot options = .ok outcome) (pending : PendingSolve)
    (tick : UInt64) (explanation : ExplanationId) (digest : Digest) :
    Plan.Fits narrow { solvedPlan plan outcome tick with
      churn := churnOf engine.liveSnapshot pending (solvedPlan plan outcome tick)
      explanation := explanation
      explanationDigest := digest } := by
  obtain ⟨accepted, bundled⟩ := sized.snapshot live
  have bounded := solve_bounded accepted found
  refine ⟨?_, fun narrow => bounded.narrow accepted (bundled narrow)⟩
  exact
    { fits.1 with
      componentCount := bounded.componentCount
      alternativeCount := bounded.alternativeCount
      alternatives := bounded.alternatives
      feasibility := bounded.feasibility
      allocation := bounded.allocation
      rationale := churnOf_within accepted pending fits.1.rationale }

end Plans

/-! The calls. -/

theorem counted_stale (engine : Engine storage) : Counted engine engine.countStale :=
  ⟨rfl, rfl, rfl, rfl, rfl, rfl, rfl⟩

theorem counted_rejected (engine : Engine storage) : Counted engine engine.countRejected :=
  ⟨rfl, rfl, rfl, rfl, rfl, rfl, rfl⟩

theorem demoteOutdated_tells (ids : List PlanId) (sized : Sized narrow engine) :
    Tells narrow engine (engine.demoteOutdated ids).2 := by
  refine demoteOutdated_keeps (fun current => Tells narrow engine current) ?_ ids engine (Tells.refl sized)
  intro current id plan told found _ _
  have fits := told.sized.plans id plan found
  exact told.trans (Tells.record told.sized (counted_stale current) (outdated_fits fits))

theorem submitSnapshot_tells (sized : Sized narrow engine) (raw : FabricSnapshot)
    (bundled : narrow → validateStructure (canonicalize raw) = .ok () → Bundled (canonicalize raw)) :
    Tells narrow engine (engine.submitSnapshot raw).2 := by
  unfold submitSnapshot
  dsimp only
  cases valid : validateStructure (canonicalize raw) with
  | error reason => exact Tells.refl sized
  | ok =>
      have placed : Sized narrow (engine.withSnapshot (canonicalize raw)) :=
        ⟨sized.plans,
          fun _ => ⟨canonicalize raw, rfl, ⟨⟨raw, rfl⟩, valid⟩, rfl, fun all => bundled all valid⟩⟩
      have told := demoteOutdated_tells engine.plans.keys placed
      exact ⟨told.sized, told.asks⟩

theorem declare_tells (sized : Sized narrow engine) (request : DeclareRequest) :
    Tells narrow engine (engine.declare request).2 := by
  unfold declare
  by_cases dark : (!engine.liveValid) = true
  · rw [if_pos dark]
    exact Tells.refl sized
  rw [if_neg dark]
  by_cases missing : (!request.planId.valid || !request.attempt.valid ||
      !request.attemptGeneration.valid || !request.publisher.valid ||
      !request.publisherBoot.valid) = true
  · rw [if_pos missing]
    exact Tells.refl sized
  rw [if_neg missing]
  by_cases unbound : (!engine.config.coordinatorIncarnation.valid) = true
  · rw [if_pos unbound]
    exact Tells.refl sized
  rw [if_neg unbound]
  by_cases full : engine.config.maxRecords.toNat ≤ engine.plans.size
  · rw [if_pos full]
    exact Tells.refl sized
  rw [if_neg full]
  by_cases known : engine.plans.contains request.planId = true
  · rw [if_pos known]
    exact Tells.refl sized
  rw [if_neg known]
  have fits : Plan.Fits narrow (engine.declaredPlan request) := by
    simp only [Bool.not_eq_true, Bool.or_eq_false_iff, Bool.not_eq_false'] at missing
    obtain ⟨⟨⟨⟨named, attempt⟩, attemptGeneration⟩, publisher⟩, boot⟩ := missing
    exact declared_fits sized (by simpa using dark) named ⟨attempt, attemptGeneration⟩ ⟨publisher, boot⟩
      (by simpa using unbound)
  -- The record is asked for before the plan is known, and whatever the append answers.
  have wrote : Tells narrow engine { engine with
      repository := (writeAll engine.repository [engine.declaredPlan request]).2 } := by
    refine ⟨⟨sized.plans, sized.live⟩, Asks.writeAll ?_ engine.repository⟩
    intro plan member
    rw [List.mem_singleton] at member
    rw [member]
    exact fits
  dsimp only
  rw [persist_write]
  cases (writeAll engine.repository [engine.declaredPlan request]).1 with
  | error reason => exact wrote
  | ok =>
      refine ⟨⟨?_, wrote.sized.live⟩, wrote.asks⟩
      intro id plan found
      have absent : engine.plans.find? request.planId = none := by simpa [OrdMap.contains] using known
      have emplaced : engine.plans.emplace request.planId (engine.declaredPlan request) =
          engine.plans.insert request.planId (engine.declaredPlan request) := by
        simp [OrdMap.emplace, absent]
      change (engine.plans.emplace request.planId (engine.declaredPlan request)).find? id =
        some plan at found
      rw [emplaced] at found
      rcases find?_insert_cases found with ⟨-, rfl⟩ | ⟨-, before⟩
      · exact fits
      · exact sized.plans id plan before

theorem validate_tells (sized : Sized narrow engine) (ref : PlanRef) :
    Tells narrow engine (engine.validate ref).2 := by
  unfold validate
  cases found : engine.plans.find? ref.id with
  | none => exact Tells.refl sized
  | some plan =>
      have fits := sized.plans ref.id plan found
      dsimp only
      split
      · exact Tells.refl sized
      · split
        · exact Tells.refl sized
        · split
          · exact Tells.store sized (fits_moved fits _ _)
          · split
            · exact Tells.record sized (counted_stale engine) (outdated_fits fits)
            · split
              · exact Tells.refl sized
              · exact Tells.record sized (Counted.refl engine) (fits_moved fits _ _)

theorem finishSolve_tells (sized : Sized narrow engine) (live : engine.liveValid = true) {plan : Plan}
    (fits : plan.Fits narrow) : Tells narrow engine (engine.finishSolve plan).2 := by
  unfold finishSolve
  dsimp only
  split
  · rename_i reason failed
    have accepted := (sized.snapshot live).1
    exact Tells.record sized (counted_rejected engine)
      (fits_summarized fits _ _ _ (solve_error_within accepted failed))
  · rename_i outcome solved
    have proposed := proposal_fits sized live fits solved
    split
    · exact Tells.record sized ⟨rfl, rfl, rfl, rfl, rfl, rfl, rfl⟩ (proposed _ _ _ _)
    · exact Tells.record sized ⟨rfl, rfl, rfl, rfl, rfl, rfl, rfl⟩ (proposed _ _ _ _)

theorem solve_tells (sized : Sized narrow engine) (ref : PlanRef) :
    Tells narrow engine (engine.solve ref).2 := by
  unfold solve
  cases found : engine.plans.find? ref.id with
  | none => exact Tells.refl sized
  | some plan =>
      have fits := sized.plans ref.id plan found
      dsimp only
      split
      · exact Tells.refl sized
      · split
        · exact Tells.refl sized
        · split
          · exact Tells.refl sized
          · rename_i dark
            split
            · exact Tells.record sized (counted_stale engine) (outdated_fits fits)
            · exact finishSolve_tells sized (by simpa using dark) (fits_moved fits .solving _)

theorem revalidateBound_tells (sized : Sized narrow engine) {plan : Plan} (fits : plan.Fits narrow)
    {stage : Text} {answer : Result Plan × Engine storage}
    (answered : engine.revalidateBound plan stage = some answer) : Tells narrow engine answer.2 := by
  unfold revalidateBound at answered
  dsimp only at answered
  split at answered
  · rw [Option.some.injEq] at answered
    rw [← answered]
    exact Tells.record sized (counted_stale engine) (outdated_fits fits)
  · rename_i fresh
    split at answered
    · rw [Option.some.injEq] at answered
      rw [← answered]
      have agreed : (engine.deltaOf plan).stale = false := by simpa [deltaOf] using fresh
      exact Tells.record sized (counted_rejected engine) (contradicted_fits fits agreed)
    · cases answered

theorem authorize_tells (sized : Sized narrow engine) (ref : PlanRef) :
    Tells narrow engine (engine.authorize ref).2 := by
  unfold authorize
  cases found : engine.plans.find? ref.id with
  | none => exact Tells.refl sized
  | some plan =>
      have fits := sized.plans ref.id plan found
      dsimp only
      split
      · exact Tells.refl sized
      · split
        · exact Tells.refl sized
        · split
          · exact Tells.refl sized
          · split
            · rename_i answer answered
              exact revalidateBound_tells sized fits answered
            · split
              · exact Tells.record sized (counted_rejected engine)
                  (rejected_fits fits ((Within.chars _).mono (by decide)))
              · split
                · exact Tells.refl sized
                · exact Tells.record sized ⟨rfl, rfl, rfl, rfl, rfl, rfl, rfl⟩ (fits_moved fits _ _)

/-- A reference to a plan that fits is complete. -/
theorem ref_readable {plan : Plan} (fits : plan.Fits narrow) : plan.ref.Readable := fun _ => fits.1.named.2

theorem superseded_fits {plan : Plan} (fits : plan.Fits narrow) {replacement : PlanRef}
    (complete : replacement.Readable) : Plan.Fits narrow (supersededPlan plan replacement) :=
  ⟨{ fits.1 with supersededBy := complete }, fits.2⟩

theorem applyCommit_tells (sized : Sized narrow engine) {plan : Plan} (fits : plan.Fits narrow)
    {intent : CommitIntent} (named : intent.commitGeneration.valid = true) :
    Tells narrow engine (engine.applyCommit plan intent).2 := by
  unfold applyCommit
  dsimp only
  cases superseded : engine.supersededByCommit plan with
  | none =>
      refine Tells.record sized ⟨rfl, rfl, rfl, rfl, rfl, rfl, rfl⟩ ?_
      exact ⟨{ fits.1 with commit := fun _ => named }, fits.2⟩
  | some previous =>
      obtain ⟨-, present, -⟩ := supersededByCommit_eq superseded
      have held := sized.plans _ previous present
      refine Tells.recordBoth sized ⟨rfl, rfl, rfl, rfl, rfl, rfl, rfl⟩
        (superseded_fits held (ref_readable fits)) ?_
      exact ⟨{ fits.1 with commit := fun _ => named, supersedes := ref_readable held }, fits.2⟩

theorem commit_tells (sized : Sized narrow engine) (ref : PlanRef) (intent : CommitIntent) :
    Tells narrow engine (engine.commit ref intent).2 := by
  unfold commit
  cases found : engine.plans.find? ref.id with
  | none => exact Tells.refl sized
  | some plan =>
      have fits := sized.plans ref.id plan found
      dsimp only
      split
      · exact Tells.refl sized
      · split
        · exact Tells.refl sized
        · rename_i unnamed
          split
          · split <;> exact Tells.refl sized
          · split
            · exact Tells.refl sized
            · split
              · exact Tells.refl sized
              · rename_i dark
                split
                · rename_i answer answered
                  exact revalidateBound_tells sized fits answered
                · split
                  · have accepted := (sized.snapshot (by simpa using dark)).1
                    have reasons := Legible.append fits.1.feasibility.binding
                      (verifyAllocation_legible accepted plan.allocation)
                    exact Tells.record sized (counted_rejected engine)
                      (unverified_fits fits reasons)
                  · have named : intent.commit.valid = true ∧ intent.commitGeneration.valid = true := by
                      simpa using unnamed
                    exact applyCommit_tells sized fits named.2

theorem supersede_tells (sized : Sized narrow engine) (incumbentRef replacementRef : PlanRef) :
    Tells narrow engine (engine.supersede incumbentRef replacementRef).2 := by
  unfold supersede
  cases found : engine.plans.find? incumbentRef.id with
  | none => exact Tells.refl sized
  | some incumbent =>
      cases present : engine.plans.find? replacementRef.id with
      | none => exact Tells.refl sized
      | some replacement =>
          have held := sized.plans _ incumbent found
          have replacing := sized.plans _ replacement present
          dsimp only
          split
          · exact Tells.refl sized
          · split
            · exact Tells.refl sized
            · split
              · exact Tells.refl sized
              · split
                · exact Tells.refl sized
                · split
                  · exact Tells.refl sized
                  · refine Tells.recordBoth sized ⟨rfl, rfl, rfl, rfl, rfl, rfl, rfl⟩
                      (superseded_fits held (ref_readable replacing)) ?_
                    exact ⟨{ replacing.1 with supersedes := ref_readable held }, replacing.2⟩

theorem markStale_tells (sized : Sized narrow engine) (ref : PlanRef) :
    Tells narrow engine (engine.markStale ref).2 := by
  unfold markStale
  cases found : engine.plans.find? ref.id with
  | none => exact Tells.refl sized
  | some plan =>
      dsimp only
      split
      · exact Tells.refl sized
      · exact Tells.record sized (counted_stale engine) (fits_moved (sized.plans _ plan found) _ _)

theorem retire_tells (sized : Sized narrow engine) (ref : PlanRef) :
    Tells narrow engine (engine.retire ref).2 := by
  unfold retire
  cases found : engine.plans.find? ref.id with
  | none => exact Tells.refl sized
  | some plan =>
      dsimp only
      split
      · exact Tells.refl sized
      · exact Tells.record sized ⟨rfl, rfl, rfl, rfl, rfl, rfl, rfl⟩
          (fits_moved (sized.plans _ plan found) _ _)

theorem revalidate_tells (sized : Sized narrow engine) (ref : PlanRef) :
    Tells narrow engine (engine.revalidate ref).2 := by
  unfold revalidate
  cases found : engine.plans.find? ref.id with
  | none => exact Tells.refl sized
  | some plan =>
      have fits := sized.plans _ plan found
      dsimp only
      split
      · exact Tells.refl sized
      · split
        · exact Tells.store sized (fits_moved fits plan.state .current)
        · split
          · exact Tells.record sized (counted_stale engine) (outdated_fits fits)
          · exact Tells.store sized (fits_moved fits plan.state .stale)

/-- A call that can write asks for records of plans that fit. -/
theorem call_tells (sized : Sized narrow engine) {operation : Operation storage}
    (writing : operation.Writing)
    (bundled : narrow → ∀ raw, operation = .submitSnapshot raw →
      validateStructure (canonicalize raw) = .ok () →
      Bundled (canonicalize raw)) : Tells narrow engine (engine.call operation).2 := by
  cases operation with
  | attachRepository | detachRepository | sharedWrite | recoverFromRepository => exact writing.elim
  | submitSnapshot raw => exact submitSnapshot_tells sized raw fun all valid => bundled all raw rfl valid
  | declare request => exact declare_tells sized request
  | validate ref => exact validate_tells sized ref
  | solve ref => exact solve_tells sized ref
  | authorize ref => exact authorize_tells sized ref
  | commit ref intent => exact commit_tells sized ref intent
  | supersede incumbent replacement => exact supersede_tells sized incumbent replacement
  | markStale ref => exact markStale_tells sized ref
  | retire ref => exact retire_tells sized ref
  | revalidate ref => exact revalidate_tells sized ref

theorem recovered_sized (checked : storage.Checked) (sized : Sized narrow engine) :
    Sized narrow engine.recoverFromRepository.2 := by
  unfold recoverFromRepository
  cases attached : engine.repository with
  | none => exact sized
  | some repository =>
      dsimp only
      split
      · exact sized
      · refine ⟨?_, nofun⟩
        intro id plan found
        change ((collapse storage (storage.records repository)).1.mapValues restored).find? id =
          some plan at found
        rw [OrdMap.find?_mapValues] at found
        obtain ⟨recorded, read, rfl⟩ := Option.map_eq_some_iff.1 found
        obtain ⟨-, entry, -, -, decoded⟩ := collapse_collapsed storage _ id recorded read
        have fits := (checked _ _ decoded).fits narrow
        unfold restored
        split
        · exact fits_moved fits _ _
        · exact fits_moved fits recorded.state _

/-- Whatever is called, the engine knows plans that fit only. -/
theorem call_sized (checked : storage.Checked) (sized : Sized narrow engine) (operation : Operation storage)
    (bundled : narrow → ∀ raw, operation = .submitSnapshot raw →
      validateStructure (canonicalize raw) = .ok () →
      Bundled (canonicalize raw)) : Sized narrow (engine.call operation).2 := by
  by_cases writing : operation.Writing
  · exact (call_tells sized writing bundled).sized
  cases operation with
  | attachRepository repository =>
      show Sized narrow (engine.attachRepository repository).2
      unfold attachRepository
      split
      · exact sized
      · split
        · exact sized
        · exact ⟨sized.plans, sized.live⟩
  | detachRepository => exact ⟨sized.plans, sized.live⟩
  | sharedWrite repository => exact ⟨sized.plans, sized.live⟩
  | recoverFromRepository => exact recovered_sized checked sized
  | _ => exact absurd trivial writing

end Steps

theorem new_sized (narrow : Prop) (config : EngineConfig) : Sized narrow (new config : Engine storage) :=
  ⟨fun _ _ found => (by cases found), nofun⟩

theorem run_sized {narrow : Prop} (checked : storage.Checked) (config : EngineConfig)
    (history : List (Operation storage))
    (bundled : narrow → ∀ raw, .submitSnapshot raw ∈ history →
      validateStructure (canonicalize raw) = .ok () →
      Bundled (canonicalize raw)) : Sized narrow (run (new config) history) := by
  induction history using List.reverseRecOn with
  | nil => exact new_sized narrow config
  | append_singleton past operation ih =>
      have before := ih fun all raw member => bundled all raw (List.mem_append_left _ member)
      unfold run at before ⊢
      rw [List.foldl_append, List.foldl_cons, List.foldl_nil, apply_eq_call]
      refine call_sized checked before operation ?_
      rintro all raw rfl valid
      exact bundled all raw (List.mem_append_right _ List.mem_cons_self) valid

end Engine

end TrafficFabric
