import TrafficFabric.FailedAppends

set_option autoImplicit false

/- Plans keep up with the live snapshot. A snapshot that goes live demotes every plan that it leaves
behind. As long as no append fails, no plan that can still advance and no committed one is bound to
another authority than the live one. -/
namespace TrafficFabric

open PlanStateMachine (canTransition isLive)

namespace Engine

section Steps

variable {storage : Storage} {engine : Engine storage} {operation : Operation storage} {id : PlanId}
variable {plan later : Plan}

/-- Every plan that is still to keep up with the live authority does. -/
structure KeepsUp (engine : Engine storage) : Prop where
  current : engine.liveValid = true → ∀ id plan, engine.plans.find? id = some plan → plan.Advancing →
    (engine.deltaOf plan).identical = true
  dark : engine.liveValid = false → ∀ id plan, engine.plans.find? id = some plan → isLive plan.state = false

/-! Nothing comes back to life. -/

theorem Change.live_of_live {incumbent : PlanRef} (change : Change engine plan operation incumbent later)
    (live : isLive later.state = true) : isLive plan.state = true := by
  cases change with
  | validated declared =>
      rw [declared]
      rfl
  | contradicted advancing => exact advancing
  | solved solves =>
      rw [solves.validated]
      rfl
  | authorized authorizes =>
      rcases authorizes.proposed with proposed | degraded
      · rw [proposed]
        rfl
      · rw [degraded]
        rfl
  | outdated | unsolvable | forbidden | unverified | committed | marked | retired => cases live

theorem PlanStep.live_of_live (step : PlanStep engine operation id plan later)
    (live : isLive later.state = true) : isLive plan.state = true := by
  cases step with
  | kept => exact live
  | noted _ noted =>
      cases noted with
      | current | behind => exact live
      | unfounded => cases live
  | recorded _ change => exact change.live_of_live live
  | displacing | displaced | superseded | demoted => cases live
  | superseding committed =>
      change isLive plan.state = true at live
      exact live

theorem PlanStep.advancing (step : PlanStep engine operation id plan later) (advancing : later.Advancing) :
    plan.Advancing := by
  rcases advancing with live | committed
  · exact Or.inl (step.live_of_live live)
  · rcases step.committed committed with ⟨before, -⟩ | ⟨_, _, -, -, commits, -⟩
    · exact Or.inr before
    · refine Or.inl ?_
      rw [commits.authorized]
      rfl

theorem PlanStep.authority (step : PlanStep engine operation id plan later) :
    later.authority = plan.authority := by
  cases step with
  | noted _ noted => exact noted.binding.authority
  | recorded _ change => exact change.binding.authority
  | kept | displacing | displaced | superseded | superseding | demoted => rfl

/-! One call. -/

/-- A submission without a failed append leaves no advancing plan behind. -/
theorem demoteOutdated_current (keyed : Keyed engine.plans)
    (done : (engine.demoteOutdated engine.plans.keys).1 = .ok ())
    (found : (engine.demoteOutdated engine.plans.keys).2.plans.find? id = some plan)
    (advancing : plan.Advancing) : (engine.deltaOf plan).identical = true := by
  obtain ⟨written, demotions⟩ := demoteOutdated_demotions engine.plans.keys engine keyed
  rw [demotions.plans] at found
  have idle : plan ∉ written := by
    intro member
    obtain ⟨before, -, -, -, rfl⟩ := demotions.outdated plan member
    rcases advancing with live | committed
    · cases live
    · cases committed
  rcases find?_storeAll found with ⟨member, -⟩ | ⟨before, others⟩
  · exact absurd member idle
  · have listed : id ∈ engine.plans.keys :=
      (OrdMap.mem_keys_iff engine.plans id).2 (Option.isSome_iff_exists.2 ⟨plan, before⟩)
    rcases demotions.complete done id listed plan before advancing with same | ⟨later, member, key⟩
    · exact same
    · exact absurd key (others later member)

theorem declaredPlan_identical (sound : LiveSound engine) (live : engine.liveValid = true)
    (request : DeclareRequest) : (engine.deltaOf (engine.declaredPlan request)).identical = true := by
  obtain ⟨snapshot, -, accepted, same⟩ := sound live
  change (compareAuthority engine.live engine.live).identical = true
  rw [same, compareAuthority_identical (authorityOf_valid accepted) (authorityOf_valid accepted)]

theorem recover_keepsUp (keeps : KeepsUp engine) : KeepsUp (engine.call .recoverFromRepository).2 := by
  generalize answered : engine.call .recoverFromRepository = result
  have effect := call_effect engine .recoverFromRepository
  rw [answered] at effect
  cases effect with
  | refused => exact keeps
  | noted target | recorded target => cases target
  | recovered attached empty =>
      refine ⟨nofun, ?_⟩
      intro _ id later found
      change ((collapse storage _).1.mapValues restored).find? id = some later at found
      rw [OrdMap.find?_mapValues, Option.map_eq_some_iff] at found
      obtain ⟨recorded, -, rfl⟩ := found
      exact restored_idle recorded

end Steps

variable {engine : Engine durable} {operation : Operation durable}

theorem submit_eq {raw : FabricSnapshot} (accepted : validateStructure (canonicalize raw) = .ok ()) :
    engine.call (.submitSnapshot raw) =
      (engine.withSnapshot (canonicalize raw)).demoteOutdated engine.plans.keys := by
  change engine.submitSnapshot raw = _
  unfold submitSnapshot
  dsimp only
  rw [accepted]
  rfl

theorem submit_keepsUp (keyed : Keyed engine.plans) {raw : FabricSnapshot}
    (clean : Clean engine (engine.call (.submitSnapshot raw)).2)
    (live : (engine.call (.submitSnapshot raw)).2.live = authorityOf (canonicalize raw))
    (accepted : validateStructure (canonicalize raw) = .ok ()) {id : PlanId} {plan : Plan}
    (found : (engine.call (.submitSnapshot raw)).2.plans.find? id = some plan)
    (advancing : plan.Advancing) :
    ((engine.call (.submitSnapshot raw)).2.deltaOf plan).identical = true := by
  unfold deltaOf
  rw [live]
  rw [submit_eq accepted] at clean found
  obtain ⟨written, demotions⟩ :=
    demoteOutdated_demotions engine.plans.keys (engine.withSnapshot (canonicalize raw)) keyed
  have writes : Writes (engine.withSnapshot (canonicalize raw)) (.submitSnapshot raw) written
      ((engine.withSnapshot (canonicalize raw)).demoteOutdated engine.plans.keys) := by
    refine ⟨demotions.repository, ?_, fun _ => Or.inl demotions.plans⟩
    intro reason failed
    rw [demotions.status]
    exact failed
  have done := demotions.status.trans (writes.clean_iff.1 clean)
  have current : ((engine.withSnapshot (canonicalize raw)).deltaOf plan).identical = true :=
    demoteOutdated_current keyed done found advancing
  exact current

/-- No append of a submitted snapshot fails. -/
def SubmissionUnfailing (engine : Engine durable) : Operation durable → Prop
  | .submitSnapshot raw => Unfailing engine (.submitSnapshot raw)
  | _ => True

theorem Unfailing.submission (unfailing : Unfailing engine operation) :
    SubmissionUnfailing engine operation := by
  cases operation with
  | submitSnapshot raw => exact unfailing
  | _ => trivial

/-- Where no submission leaves a demotion unwritten, a call leaves no plan behind. -/
theorem call_keepsUp (steady : engine.Steady) (keeps : KeepsUp engine)
    (unfailing : SubmissionUnfailing engine operation) : KeepsUp (engine.call operation).2 := by
  have step := call_live engine operation
  cases step with
  | submitted accepted snapshot live liveValid =>
      have clean := unfailing trivial
      rw [apply_eq_call] at clean
      refine ⟨fun _ id plan found advancing =>
        submit_keepsUp steady.sound.keyed clean live accepted found advancing, ?_⟩
      intro dark
      rw [liveValid] at dark
      cases dark
  | recovered => exact recover_keepsUp keeps
  | same snapshot live liveValid =>
      constructor
      · intro valid id later found advancing
        rw [liveValid] at valid
        rcases call_plan steady.sound.keyed found with ⟨plan, before, change⟩ | ⟨absent, new⟩
        · have same := keeps.current valid id plan before (change.advancing advancing)
          unfold deltaOf at same ⊢
          rw [change.authority, live]
          exact same
        · cases new with
          | declared =>
              unfold deltaOf
              rw [live]
              exact declaredPlan_identical steady.liveSound valid _
          | restored =>
              refine (recover_keepsUp keeps).current ?_ id _ found advancing
              rw [liveValid]
              exact valid
      · intro dark id later found
        rw [liveValid] at dark
        rcases call_plan steady.sound.keyed found with ⟨plan, before, change⟩ | ⟨absent, new⟩
        · by_contra live
          have idle := keeps.dark dark id plan before
          rw [change.live_of_live (by simpa using live)] at idle
          cases idle
        · cases new with
          | declared valid =>
              rw [dark] at valid
              cases valid
          | restored => exact restored_idle _

theorem run_keepsUp (config : EngineConfig) (history : List (Operation durable))
    (unfailing : Runs.Along apply Unfailing (new config) history) : KeepsUp ((new config).run history) := by
  have start : (new config : Engine durable).Steady ∧ KeepsUp (new config : Engine durable) :=
    ⟨new_steady config, nofun, fun _ _ _ => nofun⟩
  have holds := Runs.invariant (fun engine => engine.Steady ∧ KeepsUp engine) ?_ start unfailing
  · exact holds.2
  · intro engine operation held unfailing
    refine ⟨apply_steady held.1 operation, ?_⟩
    rw [apply_eq_call]
    exact call_keepsUp held.1 held.2 unfailing.submission

/-! What the calls that compare find. -/

/-- The calls that compare a plan with the live authority. -/
def Operation.Comparing {storage : Storage} : Operation storage → Prop
  | .validate _ | .solve _ | .authorize _ | .commit _ _ | .revalidate _ => True
  | _ => False

/-- Once a snapshot is live, every plan that can still advance and every committed one is bound to the live
authority. The calls that compare find neither an advanced nor a contradictory authority: they demote no
such plan, and no plan at all changes its state when it is revalidated. -/
structure NeverBehind (engine : Engine durable) : Prop where
  identical : engine.liveValid = true → ∀ id plan, engine.plans.find? id = some plan → plan.Advancing →
    (engine.deltaOf plan).identical = true
  stands : engine.liveValid = true → ∀ id plan, engine.plans.find? id = some plan → plan.Advancing →
    ∀ stage, engine.revalidateBound plan stage = none
  undemoted : engine.liveValid = true → ∀ operation : Operation durable, operation.Comparing →
    ∀ id plan later, engine.plans.find? id = some plan → plan.Advancing →
      (engine.call operation).2.plans.find? id = some later → later.state ≠ .stale
  revalidated : ∀ ref plan later, engine.plans.find? ref.id = some plan →
    (engine.call (.revalidate ref)).2.plans.find? ref.id = some later → later.state = plan.state ∧
      (engine.liveValid = true → plan.Advancing → (engine.revalidate ref).1 = .ok .current)

theorem advancing_not_stale {plan : Plan} (advancing : plan.Advancing) : plan.state ≠ .stale := by
  intro stale
  rcases advancing with live | committed
  · rw [stale] at live
    cases live
  · rw [stale] at committed
    cases committed

theorem KeepsUp.undemoted (keeps : KeepsUp engine) (steady : engine.Steady) (live : engine.liveValid = true)
    (comparing : operation.Comparing) {id : PlanId} {plan later : Plan}
    (found : engine.plans.find? id = some plan) (advancing : plan.Advancing)
    (present : (engine.call operation).2.plans.find? id = some later) : later.state ≠ .stale := by
  have identical := keeps.current live id plan found advancing
  have agrees : (engine.deltaOf plan).identical ≠ false := by
    rw [identical]
    nofun
  rcases call_plan steady.sound.keyed present with ⟨before, same, step⟩ | ⟨absent, -⟩
  · rw [found, Option.some.injEq] at same
    subst same
    cases step with
    | kept => exact advancing_not_stale advancing
    | noted _ noted =>
        cases noted with
        | current => exact advancing_not_stale advancing
        | behind _ differs => exact absurd differs agrees
        | unfounded _ dark =>
            rw [live] at dark
            cases dark
    | recorded _ change =>
        cases change with
        | outdated _ _ differs => exact absurd differs agrees
        | solved =>
            rcases (proposal_state engine plan _).1 with state | state | state <;>
              rw [state] <;> nofun
        | marked => exact comparing.elim
        | validated | contradicted | unsolvable | forbidden | authorized | unverified | committed
        | retired => nofun
    | displacing | displaced | superseded => nofun
    | superseding | demoted => exact comparing.elim
  · rw [found] at absent
    cases absent

theorem revalidate_eq {ref : PlanRef} {plan : Plan} (found : engine.plans.find? ref.id = some plan)
    (live : engine.liveValid = true) (identical : (engine.deltaOf plan).identical = true) :
    engine.revalidate ref = (.ok .current, engine.store { plan with applicability := .current }) := by
  unfold revalidate
  rw [found]
  dsimp only
  rw [live, if_neg (by decide)]
  exact if_pos identical

theorem KeepsUp.revalidated (keeps : KeepsUp engine) (steady : engine.Steady) {ref : PlanRef}
    {plan later : Plan} (found : engine.plans.find? ref.id = some plan)
    (present : (engine.call (.revalidate ref)).2.plans.find? ref.id = some later) :
    later.state = plan.state ∧
      (engine.liveValid = true → plan.Advancing → (engine.revalidate ref).1 = .ok .current) := by
  constructor
  · rcases call_plan steady.sound.keyed present with ⟨before, same, step⟩ | ⟨absent, -⟩
    · rw [found, Option.some.injEq] at same
      subst same
      cases step with
      | kept => rfl
      | noted _ noted => cases noted <;> rfl
      | recorded _ change =>
          cases change with
          | outdated advancing live differs =>
              rw [keeps.current live ref.id plan found advancing] at differs
              cases differs
          | contradicted advancing live differs =>
              rw [keeps.current live ref.id plan found (Or.inl advancing)] at differs
              cases differs
    · rw [found] at absent
      cases absent
  · intro live advancing
    rw [revalidate_eq found live (keeps.current live ref.id plan found advancing)]

/-- Appends are not taken back: where all that were made have succeeded, none of any call has failed. -/
theorem unfailing_of_quiet (steady : engine.Steady) (operations : List (Operation durable))
    (writing : ∀ operation ∈ operations, operation.Writing) {journal : Journal}
    (attached : (engine.run operations).repository = some journal)
    (quiet : ∀ answer ∈ journal.outcomes, answer = .ok ()) :
    Runs.Along apply Unfailing engine operations := by
  -- From the right: the appends of the last call come after all others.
  induction operations using List.reverseRecOn generalizing journal with
  | nil => trivial
  | append_singleton past operation ih =>
      have before : (engine.run past).Steady := by
        apply Runs.invariant Steady _ steady (Runs.along_true _ past)
        intro engine operation steady _
        exact apply_steady steady operation
      have last : engine.run (past ++ [operation]) = ((engine.run past).call operation).2 := by
        rw [← apply_eq_call]
        unfold run
        rw [List.foldl_append, List.foldl_cons, List.foldl_nil]
      obtain ⟨written, writes⟩ :=
        call_writes before.sound.keyed (writing operation (List.mem_append_right past List.mem_cons_self))
      obtain ⟨answers, grown, -, -⟩ := writes.answers
      have repository := writes.repository
      rw [last] at attached
      rw [outcomes_some attached] at grown
      cases held : (engine.run past).repository with
      | none =>
          rw [attached, held] at repository
          cases written <;> cases repository
      | some earlier =>
          rw [outcomes_some held] at grown
          refine Runs.along_append.2 ⟨ih ?_ held ?_, fun _ => ⟨answers, ?_, ?_⟩, trivial⟩
          · exact fun other member => writing other (List.mem_append_left _ member)
          · intro answer member
            apply quiet
            rw [grown]
            exact List.mem_append_left answers member
          · rw [apply_eq_call]
            exact (outcomes_some attached).trans
              (grown.trans (congrArg (· ++ answers) (outcomes_some held).symm))
          · intro answer member
            apply quiet
            rw [grown]
            exact List.mem_append_right earlier.outcomes member

/-- In every run without a failed append, no plan is behind. -/
theorem run_neverBehind (config : EngineConfig) (history : List (Operation durable))
    (unfailing : Runs.Along apply Unfailing (new config) history) :
    NeverBehind ((new config).run history) := by
  have keeps := run_keepsUp config history unfailing
  have steady : ((new config).run history).Steady := run_steady config history
  exact
    { identical := keeps.current
      stands := fun live id plan found advancing stage =>
        revalidateBound_none (keeps.current live id plan found advancing) stage
      undemoted := fun live _ comparing _ _ _ found advancing present =>
        keeps.undemoted steady live comparing found advancing present
      revalidated := fun _ _ _ found present => keeps.revalidated steady found present }

/-- With room for its five records, no append of the run fails. -/
theorem committedHistory_unfailing {id : PlanId} (valid : id.valid = true) :
    Runs.Along apply Unfailing (new {}) (committedHistory 5 id) := by
  obtain ⟨committed, written, settled, -⟩ := run_committedHistory valid 5 (by decide)
  have healthy : (boundedJournal 5).Healthy (written.length + 0) := by
    rw [settled.count]
    exact boundedJournal_healthy 5
  obtain ⟨last, found, quiet⟩ := appendEach_healthy written healthy settled.recordable
  have attached : ((new {}).run (committedHistory 5 id)).repository = some last :=
    settled.logged.trans found
  obtain ⟨rest, split, writing⟩ : ∃ rest, committedHistory 5 id = .attachRepository
    (boundedJournal 5) :: rest ∧
      ∀ operation ∈ rest, operation.Writing := by
    refine ⟨.submitSnapshot linkFabric :: committing (linkRequest id none) linkIntent, rfl, ?_⟩
    intro operation member
    rcases List.mem_cons.1 member with rfl | member
    · trivial
    · have planning := committing_planning (linkRequest id none) linkIntent operation member
      cases operation <;> trivial
  rw [split] at attached ⊢
  exact ⟨fun attaching => attaching.elim,
    unfailing_of_quiet (apply_steady (new_steady {}) _) rest writing attached quiet.clean⟩

theorem run_neverBehind_committedHistory :
    NeverBehind ((new {}).run (committedHistory 5 (named "plan-1"))) :=
  run_neverBehind {} (committedHistory 5 (named "plan-1")) (committedHistory_unfailing (by decide))

end Engine

end TrafficFabric
