import TrafficFabric.FailedAppends
import TrafficFabric.Recovery

set_option autoImplicit false

/- Runs of an engine with restarts in between. As long as no append fails and every plan record can be
read, a restart changes nothing but that live plans are stale and have to be planned again. -/
namespace TrafficFabric

open PlanStateMachine (isLive)

/-- The commit of a plan is named as a whole or not at all. -/
def Plan.Named (plan : Plan) : Prop :=
  plan.commit.valid = true ∨ plan.commit = default ∧ plan.commitGeneration = default

theorem Plan.Named.commitGeneration_eq {plan : Plan} (named : plan.Named) :
    plan.durable.commitGeneration = plan.commitGeneration := by
  change (if plan.commit.valid then plan.commitGeneration else default) = plan.commitGeneration
  rcases named with set | absent
  · rw [if_pos set]
  · rw [absent.2, ite_self]

theorem Id.eq_default {kind : IdKind} {id : Id kind} (absent : id.valid = false) : id = default := by
  refine Id.ext ?_
  unfold Id.valid at absent
  rw [Bool.not_eq_false', List.isEmpty_iff] at absent
  exact absent

theorem Plan.named_durable (plan : Plan) : plan.durable.Named := by
  cases valid : plan.commit.valid with
  | true => exact Or.inl valid
  | false =>
      refine Or.inr ⟨Id.eq_default valid, ?_⟩
      change (if plan.commit.valid then plan.commitGeneration else default) = default
      rw [valid]
      rfl

namespace Engine

/-- A fresh engine that has recovered from the log of an engine that is gone. -/
def restarted (engine : Engine durable) (config : EngineConfig) : Engine durable :=
  ({ (new config : Engine durable) with repository := engine.repository }).recoverFromRepository.2

inductive Event
  | call (operation : Operation durable)
  | restart (config : EngineConfig)

def occur (engine : Engine durable) : Event → Engine durable
  | .call operation => engine.apply operation
  | .restart config => engine.restarted config

/-- The repository stays attached and gets no plan record from elsewhere, no append fails, and what is
written can be read. -/
structure Faithful (engine : Engine durable) (operation : Operation durable) : Prop where
  attached : operation ≠ .detachRepository
  shared : ∀ journal, operation = .sharedWrite journal → ∃ records,
    PlanRepository.records (Journal.repository journal) = engine.log ++ records ∧
      ∀ record ∈ records, record.type ≠ .plan
  unfailing : Unfailing engine operation
  decodes : Decodes (engine.apply operation).log

def Event.Undamaged (engine : Engine durable) : Event → Prop
  | .call operation => Faithful engine operation
  | .restart _ => True

/-- The log says what is in memory. -/
structure Mirrored (engine : Engine durable) : Prop where
  attached : engine.repository ≠ none
  mirrors : Mirrors engine.plans engine.log
  lineage : Lineage engine.plans engine.incumbent
  named : ∀ id plan, engine.plans.find? id = some plan → plan.Named

section Steps

variable {engine : Engine durable}

/-- The appends of a call that writes, none of which fails. -/
theorem Writes.recorded {operation : Operation durable} {written : List Plan}
    {result : Status × Engine durable}
    (writes : Writes engine operation written result) (clean : Clean engine result.2)
    (attached : engine.repository ≠ none) :
    result.2.repository ≠ none ∧ ∃ records, result.2.log = engine.log ++ records ∧
      List.Forall₂ Spells records written := by
  obtain ⟨journal, present⟩ := Option.ne_none_iff_exists'.1 attached
  have success := writes.clean_iff.1 clean
  have repository := writes.repository
  rw [present] at success repository
  obtain ⟨records, next, last, grown, spells⟩ := writeAll_records journal written success
  rw [last] at repository
  refine ⟨by rw [repository]; exact Option.some_ne_none next, records, ?_, spells⟩
  rw [log_some repository, log_some present, grown]

theorem PlanStep.named {operation : Operation durable} {id : PlanId} {plan later : Plan}
    (step : PlanStep engine operation id plan later) (named : plan.Named) : later.Named := by
  cases step with
  | kept => exact named
  | noted _ noted => cases noted <;> exact named
  | recorded _ change =>
      cases change with
      | committed commits => exact Or.inl commits.named.1
      | _ => exact named
  | displacing commits => exact Or.inl commits.named.1
  | displaced | superseded | superseding | demoted => exact named

theorem apply_named (keyed : Keyed engine.plans)
    (named : ∀ id plan, engine.plans.find? id = some plan → plan.Named) (operation : Operation durable)
    (recovered : operation = .recoverFromRepository → ∀ id plan,
      (engine.apply operation).plans.find? id = some plan → plan.Named) :
    ∀ id plan, (engine.apply operation).plans.find? id = some plan → plan.Named := by
  intro id later found
  by_cases recovery : operation = .recoverFromRepository
  · exact recovered recovery id later found
  · rw [apply_eq_call] at found
    rcases call_plan keyed found with ⟨plan, before, step⟩ | ⟨-, created⟩
    · exact step.named (named id plan before)
    · cases created with
      | declared => exact Or.inr ⟨rfl, rfl⟩
      | restored => exact absurd rfl recovery

/-- What a call makes of an engine whose log says what is in memory. -/
theorem Mirrored.writing (mirrored : Mirrored engine) {operation : Operation durable}
    (writing : operation.Writing)
    (faithful : Faithful engine operation) : (engine.apply operation).repository ≠ none ∧
      Mirrors (engine.apply operation).plans (engine.apply operation).log := by
  obtain ⟨written, writes⟩ := call_writes mirrored.lineage.keyed writing
  have clean := faithful.unfailing writing
  have decodes := faithful.decodes
  rw [apply_eq_call] at clean decodes ⊢
  obtain ⟨attached, records, grown, spells⟩ := writes.recorded clean mirrored.attached
  refine ⟨attached, ?_⟩
  rw [grown] at decodes ⊢
  rcases writes.settled clean with stored | ⟨rfl, id, plan, next, found, noted, stored⟩
  · rw [stored]
    exact mirrored.mirrors.records spells fun record member =>
      decodes record (List.mem_append_right _ member)
  · cases spells
    rw [stored, List.append_nil]
    exact mirrored.mirrors.note found (noted.binding.id.trans (mirrored.lineage.keyed id plan found)) noted

theorem restarted_eq (attached : engine.repository ≠ none) (config : EngineConfig) :
    (engine.restarted config).plans = recoveredPlans engine.log ∧
      (engine.restarted config).incumbent = recoveredIncumbent (recoveredPlans engine.log) ∧
      (engine.restarted config).liveValid = false ∧ (engine.restarted config).repository =
        engine.repository := by
  obtain ⟨journal, present⟩ := Option.ne_none_iff_exists'.1 attached
  unfold restarted recoverFromRepository
  rw [present, log_some present]
  exact ⟨rfl, rfl, rfl, rfl⟩

theorem Mirrors.vacant {plans : OrdMap PlanId Plan} {log : List DurableRecord} (mirrors : Mirrors plans log)
    (empty : plans.size = 0) (id : PlanId) : (recoveredPlans log).find? id = none := by
  have related := mirrors id
  have entries : plans.entries = [] := List.length_eq_zero_iff.1 empty
  have absent : plans.find? id = none := by
    rw [OrdMap.find?, entries]
    rfl
  rw [absent] at related
  cases found : (recoveredPlans log).find? id with
  | none => rfl
  | some plan =>
      rw [found] at related
      cases related

/-- A recovery is refused where there are plans, and finds none where there are none. -/
theorem Mirrored.recover (mirrored : Mirrored engine) : Mirrored (engine.apply .recoverFromRepository) := by
  rw [apply_eq_call]
  generalize answered : engine.call .recoverFromRepository = result
  have effect := call_effect engine .recoverFromRepository
  rw [answered] at effect
  cases effect with
  | refused => exact mirrored
  | noted target | recorded target => cases target
  | recovered attached empty =>
      rename_i journal stats recovery
      have vacant := mirrored.mirrors.vacant empty
      rw [log_some attached] at vacant
      have absent : ∀ id plan, (recoveredPlans journal.repository.records).find? id ≠ some plan := by
        intro id plan found
        rw [vacant id] at found
        cases found
      have mirrors : Mirrors (recoveredPlans journal.repository.records) engine.log := by
        intro id
        rw [vacant id, mirrored.mirrors.vacant empty id]
        exact Option.Rel.none
      have places : SamePlaces engine.plans (recoveredPlans journal.repository.records) := by
        intro id
        rw [find?_of_empty empty id, vacant id]
        exact Option.Rel.none
      exact ⟨mirrored.attached, mirrors,
        mirrored.lineage.touch places fun id plan found _ => absurd found (absent id plan),
        fun id plan found => absurd found (absent id plan)⟩

theorem Mirrored.call (mirrored : Mirrored engine) {operation : Operation durable}
    (faithful : Faithful engine operation) : Mirrored (engine.apply operation) := by
  by_cases recovery : operation = .recoverFromRepository
  · subst recovery
    exact mirrored.recover
  have lineage : Lineage (engine.apply operation).plans (engine.apply operation).incumbent := by
    rw [apply_eq_call]
    exact call_lineage mirrored.lineage operation fun same => absurd same recovery
  have named := apply_named mirrored.lineage.keyed mirrored.named operation fun same => absurd same recovery
  suffices kept : (engine.apply operation).repository ≠ none ∧
      Mirrors (engine.apply operation).plans (engine.apply operation).log from
    ⟨kept.1, kept.2, lineage, named⟩
  obtain ⟨journal, present⟩ := Option.ne_none_iff_exists'.1 mirrored.attached
  cases operation with
  | attachRepository other =>
      have refused : (engine.apply (.attachRepository other)) = engine := by
        change (engine.attachRepository other).2 = engine
        unfold attachRepository
        rw [present]
        rfl
      rw [refused]
      exact ⟨mirrored.attached, mirrored.mirrors⟩
  | detachRepository => exact absurd rfl faithful.attached
  | sharedWrite other =>
      obtain ⟨records, grown, others⟩ := faithful.shared other rfl
      have shared : (engine.apply (.sharedWrite other)).repository = some other := by
        change engine.repository.map _ = some other
        rw [present]
        rfl
      refine ⟨by rw [shared]; exact Option.some_ne_none other, ?_⟩
      intro id
      rw [log_some shared, grown, recoveredPlans_others _ others]
      exact mirrored.mirrors id
  | recoverFromRepository => exact absurd rfl recovery
  | _ => exact mirrored.writing trivial faithful

/-- The plans before and behind a restart. -/
theorem Mirrored.restored (mirrored : Mirrored engine) (config : EngineConfig) (id : PlanId) :
    Option.Rel Restores (engine.plans.find? id) ((engine.restarted config).plans.find? id) := by
  rw [(restarted_eq mirrored.attached config).1]
  exact mirrored.mirrors id

theorem Mirrored.back (mirrored : Mirrored engine) (config : EngineConfig) {id : PlanId} {found : Plan}
    (present : (engine.restarted config).plans.find? id = some found) :
    ∃ plan, engine.plans.find? id = some plan ∧ Restores plan found := by
  have related := mirrored.restored config id
  rw [present] at related
  cases before : engine.plans.find? id with
  | none =>
      rw [before] at related
      cases related
  | some plan =>
      rw [before] at related
      cases related with
      | some restores => exact ⟨plan, rfl, restores⟩

theorem Restores.committed {plan found : Plan} (restores : Restores plan found) :
    found.state = .committed ↔ plan.state = .committed := by
  have state := congrArg Plan.state restores.content
  change found.state = settled plan.state at state
  rw [state]
  exact settled_committed

/-- The incumbent behind a restart is the committed plan. -/
theorem Mirrored.incumbent (mirrored : Mirrored engine) (config : EngineConfig) :
    (∀ id plan, engine.plans.find? id = some plan → plan.state = .committed →
        (engine.restarted config).incumbent = plan.ref) ∧
      ((∀ id plan, engine.plans.find? id = some plan → plan.state ≠ .committed) →
        (engine.restarted config).incumbent = default) := by
  obtain ⟨plans, incumbent, -, -⟩ := restarted_eq mirrored.attached config
  have places := mirrored.mirrors.places mirrored.lineage
  have only : ∀ id found, (recoveredPlans engine.log).find? id = some found → found.state = .committed →
      found.ref = engine.incumbent := by
    intro id found present committed
    rw [← plans] at present
    obtain ⟨plan, before, restores⟩ := mirrored.back config present
    rw [plans] at present
    obtain ⟨other, same, place⟩ := places.back present
    rw [before, Option.some.injEq] at same
    rw [place.ref, ← same]
    exact (mirrored.lineage.leading id plan before (restores.committed.1 committed)).2.symm
  obtain ⟨names, vacates⟩ := recoveredIncumbent_eq only
  rw [incumbent]
  constructor
  · intro id plan before committed
    rw [names, (mirrored.lineage.leading id plan before committed).2]
    have related := mirrored.mirrors id
    rw [before] at related
    cases present : (recoveredPlans engine.log).find? id with
    | none =>
        rw [present] at related
        cases related
    | some found =>
        rw [present] at related
        cases related with
        | some restores => exact ⟨id, found, present, restores.committed.2 committed⟩
  · intro vacant
    apply vacates
    intro id found present committed
    rw [← plans] at present
    obtain ⟨plan, before, restores⟩ := mirrored.back config present
    exact vacant id plan before (restores.committed.1 committed)

theorem Mirrored.restart (mirrored : Mirrored engine) (config : EngineConfig) :
    Mirrored (engine.restarted config) := by
  obtain ⟨plans, -, -, repository⟩ := restarted_eq mirrored.attached config
  have log : (engine.restarted config).log = engine.log := by
    unfold Engine.log
    rw [repository]
  refine ⟨by rw [repository]; exact mirrored.attached, ?_, ?_, ?_⟩
  · intro id
    rw [plans, log]
    have related := mirrored.mirrors id
    cases present : (recoveredPlans engine.log).find? id with
    | none => exact Option.Rel.none
    | some found =>
        rw [← plans] at present
        obtain ⟨plan, -, restores⟩ := mirrored.back config present
        exact Option.Rel.some restores.again
  · have places := mirrored.mirrors.places mirrored.lineage
    rw [← plans] at places
    refine mirrored.lineage.touch places fun id found present committed => ?_
    obtain ⟨plan, before, restores⟩ := mirrored.back config present
    obtain ⟨other, same, place⟩ := places.back present
    rw [before, Option.some.injEq] at same
    subst same
    have was := restores.committed.1 committed
    rw [place.supersededBy, place.ref]
    exact ⟨(mirrored.lineage.leading id plan before was).1,
      (mirrored.incumbent config).1 id plan before was⟩
  · intro id found present
    obtain ⟨plan, before, restores⟩ := mirrored.back config present
    have content := restores.content
    rw [content]
    exact plan.named_durable

end Steps

/-- A new engine with its repository. -/
def opened (config : EngineConfig) (journal : Journal) : Engine durable :=
  { (new config : Engine durable) with repository := some journal }

theorem opened_mirrored (config : EngineConfig) {journal : Journal}
    (blank : ∀ record ∈ PlanRepository.records journal.repository, record.type ≠ .plan) :
    Mirrored (opened config journal) := by
  refine ⟨Option.some_ne_none journal, ?_, Lineage.empty _, fun _ _ found => absurd found nofun⟩
  intro id
  have vacant := recoveredPlans_others [] blank
  rw [List.nil_append] at vacant
  change Option.Rel Restores none ((recoveredPlans (PlanRepository.records journal.repository)).find? id)
  rw [vacant]
  exact Option.Rel.none

theorem run_mirrored (config : EngineConfig) {journal : Journal}
    (blank : ∀ record ∈ PlanRepository.records journal.repository, record.type ≠ .plan)
    {events : List Event}
    (along : Runs.Along occur Event.Undamaged (opened config journal) events) :
    Mirrored (events.foldl occur (opened config journal)) := by
  refine Runs.invariant Mirrored ?_ (opened_mirrored config blank) along
  intro engine event mirrored undamaged
  cases event with
  | call operation => exact mirrored.call undamaged
  | restart config => exact mirrored.restart config

/-! Calls that write, judged by what they leave. -/

section Ends

variable {engine : Engine durable}

theorem writing_grows (steady : engine.Steady) (attached : engine.repository ≠ none)
    {operation : Operation durable} (writing : operation.Writing) :
    (engine.apply operation).repository ≠ none ∧ engine.log <+: (engine.apply operation).log ∧
      ∃ answers, (engine.apply operation).outcomes = engine.outcomes ++ answers := by
  obtain ⟨written, writes⟩ := call_writes steady.sound.keyed writing
  obtain ⟨answers, grown, -⟩ := writes.answers
  have repository := writes.repository
  obtain ⟨journal, present⟩ := Option.ne_none_iff_exists'.1 attached
  obtain ⟨records, next, last, logged⟩ := writeAll_grows journal written
  rw [present, last] at repository
  rw [apply_eq_call]
  refine ⟨by rw [repository]; exact Option.some_ne_none next, ?_, answers, grown⟩
  rw [log_some repository, log_some present, logged]
  exact List.prefix_append _ _

theorem run_writing_grows (steady : engine.Steady) (attached : engine.repository ≠ none)
    {operations : List (Operation durable)} (writing : ∀ operation ∈ operations, operation.Writing) :
    engine.log <+: (engine.run operations).log ∧
      ∃ answers, (engine.run operations).outcomes = engine.outcomes ++ answers := by
  induction operations generalizing engine with
  | nil => exact ⟨List.prefix_rfl, [], (List.append_nil _).symm⟩
  | cons operation rest ih =>
      obtain ⟨still, logged, answers, grown⟩ :=
        writing_grows steady attached (writing operation List.mem_cons_self)
      obtain ⟨further, others, more⟩ :=
        ih (apply_steady steady operation) still fun other member =>
          writing other (List.mem_cons_of_mem _ member)
      refine ⟨logged.trans further, answers ++ others, ?_⟩
      rw [← List.append_assoc, ← grown]
      exact more

/-- No append has failed on the way if none has in the end, and every record was read that is read then. -/
theorem undamaged_of_end (steady : engine.Steady) (attached : engine.repository ≠ none)
    {operations : List (Operation durable)} (writing : ∀ operation ∈ operations, operation.Writing)
    (clean : Clean engine (engine.run operations)) (decodes : Decodes (engine.run operations).log) :
    Runs.Along occur Event.Undamaged engine (operations.map Event.call) := by
  induction operations generalizing engine with
  | nil => trivial
  | cons operation rest ih =>
      have first := writing operation List.mem_cons_self
      have others := fun other member => writing other (List.mem_cons_of_mem operation member)
      have still := apply_steady steady operation
      obtain ⟨held, -, answers, grown⟩ := writing_grows steady attached first
      obtain ⟨further, more, last⟩ := run_writing_grows still held others
      obtain ⟨all, ended, fine⟩ := clean
      have split : all = answers ++ more := by
        refine List.append_cancel_left (ended.symm.trans ?_)
        rw [← List.append_assoc, ← grown]
        exact last
      rw [split] at fine
      refine ⟨⟨?_, ?_, fun _ => ⟨answers, grown, fun answer member => fine answer ?_⟩, ?_⟩,
        ih still held others ⟨more, last, fun answer member => fine answer ?_⟩ decodes⟩
      · rintro rfl
        exact first
      · rintro journal rfl
        exact first.elim
      · exact List.mem_append_left _ member
      · exact fun record member => decodes record (further.subset member)
      · exact List.mem_append_right _ member

/-- The records of plans that can be read. -/
theorem appendEach_decodes {journal : Journal} {room : Nat} (written : List Plan)
    (healthy : journal.Healthy (written.length + room)) (fine : ∀ plan ∈ written, Recordable plan)
    (decodes : Decodes (PlanRepository.records journal.repository)) :
    ∃ next, appendEach (some journal : Option durable.Repository) written = some next ∧
      Journal.Healthy next room ∧ Decodes (PlanRepository.records (Journal.repository next)) := by
  induction written generalizing journal with
  | nil =>
      rw [List.length_nil, Nat.zero_add] at healthy
      exact ⟨journal, rfl, healthy, decodes⟩
  | cons plan rest ih =>
      rw [List.length_cons, Nat.add_right_comm] at healthy
      have first := fine plan List.mem_cons_self
      obtain ⟨answered, still, -⟩ := Journal.Healthy.append journal _ healthy first.fits
      obtain ⟨record, made, -, grown⟩ := journal.append_ok .plan (encodePlan plan) answered
      have readable : Decodes (PlanRepository.records
          (Journal.repository (journal.append .plan (encodePlan plan)).2)) := by
        intro held member type
        change held ∈ PlanRepository.records _ at member
        rw [grown, List.mem_append, List.mem_singleton] at member
        rcases member with earlier | rfl
        · exact decodes held earlier type
        · rw [made.2]
          exact ⟨_, decodePlan_of_readable first.readable⟩
      obtain ⟨last, found, healthy, decodes⟩ :=
        ih still (fun other member => fine other (List.mem_cons_of_mem plan member)) readable
      refine ⟨last, ?_, healthy, decodes⟩
      unfold appendEach
      rw [List.foldl_cons, writeAll_one]
      exact found

end Ends

/-- The fresh engine has what the one before it had. -/
structure TakesOver (engine fresh : Engine durable) : Prop where
  plans : ∀ id, Option.Rel Restores (engine.plans.find? id) (fresh.plans.find? id)
  kept : ∀ id plan found, engine.plans.find? id = some plan → fresh.plans.find? id = some found →
    found.authority = plan.authority ∧ found.generation = plan.generation ∧
      found.feasibility.status = plan.feasibility.status ∧ found.commit = plan.commit ∧
      found.commitGeneration = plan.commitGeneration ∧ found.supersedes = plan.supersedes ∧
      found.supersededBy = plan.supersededBy
  incumbent : ∀ id plan, engine.plans.find? id = some plan → plan.state = .committed →
    fresh.incumbent = plan.ref
  vacant : (∀ id plan, engine.plans.find? id = some plan → plan.state ≠ .committed) →
    fresh.incumbent = default
  dark : fresh.liveValid = false

theorem Mirrored.takesOver {engine : Engine durable} (mirrored : Mirrored engine) (config : EngineConfig) :
    TakesOver engine (engine.restarted config) where
  plans := mirrored.restored config
  kept id plan found before present := by
    obtain ⟨other, same, restores⟩ := mirrored.back config present
    rw [before, Option.some.injEq] at same
    subst same
    have places := mirrored.mirrors.places mirrored.lineage
    rw [(restarted_eq mirrored.attached config).1] at present
    obtain ⟨other, same, place⟩ := places.back present
    rw [before, Option.some.injEq] at same
    subst same
    have content := restores.content
    refine ⟨by rw [content]; rfl, place.generation, by rw [content]; rfl, by rw [content]; rfl, ?_,
      place.supersedes, place.supersededBy⟩
    rw [content]
    exact (mirrored.named id plan before).commitGeneration_eq
  incumbent := (mirrored.incumbent config).1
  vacant := (mirrored.incumbent config).2
  dark := (restarted_eq mirrored.attached config).2.2.1

/-- A restart at any time of a run, with restarts before it, gives back every plan of the engine with its
content and its references; live plans are stale, the incumbent is the committed plan, no authority is
live, and the chains of supersession are those of before. -/
theorem restart_takes_over (config : EngineConfig) {journal : Journal}
    (blank : ∀ record ∈ PlanRepository.records journal.repository, record.type ≠ .plan)
    {events : List Event}
    (along : Runs.Along occur Event.Undamaged (opened config journal) events) (next : EngineConfig) :
    TakesOver (events.foldl occur (opened config journal))
        ((events.foldl occur (opened config journal)).restarted next) ∧
      Chained (events.foldl occur (opened config journal)) ∧
      Chained ((events.foldl occur (opened config journal)).restarted next) := by
  have mirrored := run_mirrored config blank along
  exact ⟨mirrored.takesOver next, mirrored.lineage.chained, (mirrored.restart next).lineage.chained⟩

/-! Two plans of the link fabric. -/

/-- The calls up to the commit of the second plan. -/
def twoPlansCalls (first second : PlanId) : List (Operation durable) :=
  .submitSnapshot linkFabric :: twoPlans first second none

theorem foldl_calls (engine : Engine durable) (operations : List (Operation durable)) :
    (operations.map Event.call).foldl occur engine = engine.run operations :=
  List.foldl_map

theorem opened_steady (journal : Journal) : (opened {} journal).Steady :=
  run_steady {} [(.attachRepository journal : Operation durable)]

theorem twoPlansCalls_writing (first second : PlanId) :
    ∀ operation ∈ twoPlansCalls first second, operation.Writing := by
  intro operation member
  simp only [twoPlansCalls, twoPlans, committing, preparing, List.cons_append,
    List.nil_append, List.mem_cons,
    List.not_mem_nil, or_false] at member
  rcases member with rfl | rfl | rfl | rfl | rfl | rfl | rfl | rfl | rfl | rfl <;> trivial

/-- What they leave in a repository with room. -/
structure Written (engine : Engine durable) (first second : PlanId) (committed waiting : Plan)
    (written : List Plan) : Prop where
  waits : Waiting engine (some (boundedJournal 16)) first second none (linkOutcome {}) committed waiting
  logged : engine.repository = appendEach (some (boundedJournal 16)) written
  count : written.length = 9
  recordable : ∀ plan ∈ written, Recordable plan
  plans : Recordable committed ∧ Recordable waiting

theorem run_twoPlansCalls (first second : PlanId) :
    (opened {} (boundedJournal 16)).run (twoPlansCalls first second) =
      (linkEngine (some (boundedJournal 16)) : Engine durable).run (twoPlans first second none) := by
  unfold twoPlansCalls run
  rw [List.foldl_cons]
  rfl

theorem boundedJournal_blank (bound : UInt64) :
    ∀ record ∈ PlanRepository.records (boundedJournal bound).repository, record.type ≠ .plan :=
  fun _ member => absurd member List.not_mem_nil

theorem twoPlansCalls_written {first second : PlanId} (different : first ≠ second)
    (valid : first.valid = true ∧ second.valid = true) :
    ∃ committed waiting written,
      Written ((opened {} (boundedJournal 16)).run (twoPlansCalls first second)) first
        second committed waiting
        written := by
  have accepting : Accepting (some (boundedJournal 16) : Option durable.Repository) 6 :=
      fun written next few =>
    accepting_healthy (boundedJournal_healthy 16) written next (few.trans (by decide))
  obtain ⟨committed, waiting, waits⟩ :=
    twoPlans_waiting different valid accepting (linkRequest_answerable second)
  rw [run_linkHistory, ← run_twoPlansCalls] at waits
  obtain ⟨declared, written, logged, recordable, count, fine⟩ := waits.logged
  have ready : Recordable waiting := waits.secondRecordable rfl waits.churn
  refine ⟨committed, waiting, written ++ preparedPlans declared waiting, waits, logged, ?_, ?_,
    waits.firstRecordable, ready⟩
  · rw [List.length_append, count]
    rfl
  · intro plan member
    rcases List.mem_append.1 member with earlier | member
    · exact fine plan earlier
    · simp only [preparedPlans, List.mem_cons, List.not_mem_nil, or_false] at member
      rcases member with rfl | rfl | rfl
      · exact recordable.moved _ _
      · exact ready.moved _ _
      · exact ready

/-- The calls, and further ones that write plans which can be read. -/
theorem along_boundedJournal {operations : List (Operation durable)} {written : List Plan}
    (writing : ∀ operation ∈ operations, operation.Writing)
    (logged : ((opened {} (boundedJournal 16)).run operations).repository =
      appendEach (some (boundedJournal 16)) written) (few : written.length ≤ 16)
    (recordable : ∀ plan ∈ written, Recordable plan) :
    Runs.Along occur Event.Undamaged (opened {} (boundedJournal 16)) (operations.map Event.call) := by
  obtain ⟨room, split⟩ := Nat.exists_eq_add_of_le few
  have healthy := boundedJournal_healthy 16
  rw [show (16 : UInt64).toNat = written.length + room from split] at healthy
  obtain ⟨last, found, still, decodes⟩ := appendEach_decodes written healthy recordable
    fun _ member => absurd member List.not_mem_nil
  rw [found] at logged
  refine undamaged_of_end (opened_steady (boundedJournal 16)) (Option.some_ne_none _) writing
    ⟨_, ?_, still.clean⟩ ?_
  · rw [outcomes_some logged]
    rfl
  · rw [log_some logged]
    exact decodes

/-- The calls, and a restart. -/
def twoPlansEvents (first second : PlanId) : List Event :=
  (twoPlansCalls first second).map Event.call ++ [.restart {}]

theorem twoPlansEvents_undamaged {first second : PlanId} (different : first ≠ second)
    (valid : first.valid = true ∧ second.valid = true) :
    Runs.Along occur Event.Undamaged (opened {} (boundedJournal 16)) (twoPlansEvents first second) := by
  obtain ⟨committed, waiting, written, holds⟩ := twoPlansCalls_written different valid
  have few : written.length ≤ 16 := by
    rw [holds.count]
    decide
  have calls := along_boundedJournal (twoPlansCalls_writing first second) holds.logged few holds.recordable
  exact Runs.along_append.2 ⟨calls, trivial, trivial⟩

theorem restart_takes_over_twoPlans :
    TakesOver ((twoPlansEvents (named "plan-1") (named "plan-2")).foldl occur
      (opened {} (boundedJournal 16)))
        (((twoPlansEvents (named "plan-1") (named "plan-2")).foldl occur
          (opened {} (boundedJournal 16))).restarted {}) ∧
      Chained ((twoPlansEvents (named "plan-1") (named "plan-2")).foldl occur
        (opened {} (boundedJournal 16))) ∧
      Chained (((twoPlansEvents (named "plan-1") (named "plan-2")).foldl occur
        (opened {} (boundedJournal 16))).restarted {}) :=
  restart_takes_over {} (boundedJournal_blank 16) (twoPlansEvents_undamaged (by decide) (by decide)) {}

end Engine

end TrafficFabric
