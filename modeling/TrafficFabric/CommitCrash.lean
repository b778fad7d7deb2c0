import TrafficFabric.Restarts

set_option autoImplicit false

/- A commit that displaces the incumbent writes two records, the superseded plan first. What a fresh
engine recovers when the process ends before, between or behind them. -/
namespace TrafficFabric

open PlanStateMachine (isLive)

namespace Engine

/-- What a process that starts on the repository recovers. -/
def recoveredFrom (config : EngineConfig) (journal : Journal) : Engine durable :=
  (opened config journal).recoverFromRepository.2

theorem recoveredFrom_eq (config : EngineConfig) (journal : Journal) :
    (recoveredFrom config journal).plans = recoveredPlans (PlanRepository.records journal.repository) ∧
      (recoveredFrom config journal).incumbent =
        recoveredIncumbent (recoveredPlans (PlanRepository.records journal.repository)) := ⟨rfl, rfl⟩

/-- A plan is there, in this state and at this place of its chain. -/
def Holds (plans : OrdMap PlanId Plan) (id : PlanId) (state : PlanState)
    (supersedes supersededBy : PlanRef) : Prop :=
  ∃ plan, plans.find? id = some plan ∧ plan.state = state ∧ plan.supersedes = supersedes ∧
    plan.supersededBy = supersededBy

/-- What is found of a displacing commit: the states of the two plans, how they name one another, and the
incumbent. -/
structure Aftermath where
  displaced : PlanState
  displacing : PlanState
  supersededBy : PlanRef
  supersedes : PlanRef
  incumbent : PlanRef

/-- The old plan leads, and the new one has to be planned again. -/
def unbegun (previous : Plan) : Aftermath := ⟨.committed, .stale, default, default, previous.ref⟩

/-- No plan leads: the old one is superseded by a plan that names no predecessor. -/
def halfway (plan : Plan) : Aftermath := ⟨.superseded, .stale, plan.ref, default, default⟩

/-- The new plan leads. -/
def complete (previous plan : Plan) :
    Aftermath := ⟨.superseded, .committed, plan.ref, previous.ref, plan.ref⟩

structure Aftermath.Found (aftermath : Aftermath) (previous plan : Plan) (plans : OrdMap PlanId Plan)
    (incumbent : PlanRef) : Prop where
  displaced : Holds plans previous.id aftermath.displaced previous.supersedes aftermath.supersededBy
  displacing : Holds plans plan.id aftermath.displacing aftermath.supersedes default
  incumbent : incumbent = aftermath.incumbent

/-- What every process finds that starts on these records. -/
def Aftermath.Recovers (aftermath : Aftermath) (previous plan : Plan) (log : List DurableRecord) : Prop :=
  ∀ (config : EngineConfig) (journal : Journal), PlanRepository.records journal.repository = log →
    aftermath.Found previous plan (recoveredFrom config journal).plans
      (recoveredFrom config journal).incumbent

/-- The same of the plans that are read from the log. -/
def Aftermath.Reads (aftermath : Aftermath) (previous plan : Plan) (log : List DurableRecord) : Prop :=
  aftermath.Found previous plan (recoveredPlans log) (recoveredIncumbent (recoveredPlans log))

theorem Aftermath.Reads.recovers {aftermath : Aftermath} {previous plan : Plan} {log : List DurableRecord}
    (reads : aftermath.Reads previous plan log) : aftermath.Recovers previous plan log := by
  intro config journal records
  obtain ⟨plans, incumbent⟩ := recoveredFrom_eq config journal
  rw [plans, incumbent, records]
  exact reads

section Commits

variable {engine : Engine durable} {ref : PlanRef} {intent : CommitIntent} {plan previous : Plan}

/-- The displaced plan is written first. -/
theorem displacing_writes (found : engine.plans.find? ref.id = some plan)
    (current : plan.generation = ref.generation) (commits : Commits engine plan intent)
    (displaces : engine.supersededByCommit plan = some previous) :
    Writes engine (.commit ref intent)
      [supersededPlan previous plan.ref, displacingPlan plan intent previous.ref]
      (engine.call (.commit ref intent)) := by
  have applied := commit_eq found current commits
  unfold applyCommit at applied
  rw [displaces] at applied
  dsimp only at applied
  change Writes engine _ _ (statusOf (engine.commit ref intent).1, (engine.commit ref intent).2)
  rw [applied, recordBoth_status]
  exact Writes.recordBoth ⟨rfl, rfl, rfl, rfl, rfl, rfl, rfl⟩

/-- A plan in memory, as it is recovered from the log. -/
theorem Mirrored.read (mirrored : Mirrored engine) {id : PlanId}
    (found : engine.plans.find? id = some plan) :
    Holds (recoveredPlans engine.log) id (settled plan.state) plan.supersedes plan.supersededBy := by
  obtain ⟨read, present, place⟩ := (mirrored.mirrors.places mirrored.lineage).forth found
  have related := mirrored.mirrors id
  rw [found, present] at related
  cases related with
  | some restores =>
      exact ⟨read, present, congrArg Plan.state restores.content, place.supersedes, place.supersededBy⟩

/-- The committed plan of a log is the one that is committed in memory. -/
theorem Mirrored.committed_read (mirrored : Mirrored engine)
    (there : engine.plans.find? previous.id = some previous)
    (committed : previous.state = .committed) {id : PlanId} {read : Plan}
    (present : (recoveredPlans engine.log).find? id = some read) (leads : read.state = .committed) :
    id = previous.id := by
  obtain ⟨held, before, -⟩ := (mirrored.mirrors.places mirrored.lineage).back present
  have related := mirrored.mirrors id
  rw [before, present] at related
  cases related with
  | some restores => exact mirrored.lineage.single before there (restores.committed.1 leads) committed

theorem Mirrored.incumbent_read (mirrored : Mirrored engine) {id : PlanId}
    (found : engine.plans.find? id = some plan)
    (committed : plan.state = .committed) : recoveredIncumbent (recoveredPlans engine.log) = plan.ref := by
  rw [← (restarted_eq mirrored.attached {}).2.1]
  exact (mirrored.incumbent {}).1 id plan found committed

/-- The process ends before the commit. -/
theorem Mirrored.recovers_before (mirrored : Mirrored engine)
    (found : engine.plans.find? plan.id = some plan)
    (there : engine.plans.find? previous.id = some previous) (live : isLive plan.state = true)
    (committed : previous.state = .committed) :
    (unbegun previous).Reads previous plan engine.log := by
  have displaced := mirrored.read there
  have displacing := mirrored.read found
  have alone := mirrored.lineage.fresh plan.id plan found live
  rw [(mirrored.lineage.leading previous.id previous there committed).1, committed] at displaced
  rw [alone.1, alone.2, settled, if_pos live] at displacing
  exact ⟨displaced, displacing, mirrored.incumbent_read there committed⟩

/-- The process ends behind the commit. -/
theorem Mirrored.recovers_behind {after : Engine durable} (later : Mirrored after)
    (apart : previous.id ≠ plan.id)
    (stored : after.plans = storeAll engine.plans
      [supersededPlan previous plan.ref, displacingPlan plan intent previous.ref])
    (alone : plan.supersededBy = default) :
    (complete previous plan).Reads previous plan after.log := by
  have displaced : after.plans.find? previous.id = some (supersededPlan previous plan.ref) := by
    rw [stored]
    change ((engine.plans.insert previous.id _).insert plan.id _).find? previous.id = _
    rw [OrdMap.find?_insert, if_neg apart, OrdMap.find?_insert_self]
  have displacing : after.plans.find? plan.id = some (displacingPlan plan intent previous.ref) := by
    rw [stored]
    change ((engine.plans.insert previous.id _).insert plan.id _).find? plan.id = _
    rw [OrdMap.find?_insert_self]
  have new := later.read displacing
  have incumbent := later.incumbent_read displacing rfl
  change Holds _ _ .committed previous.ref plan.supersededBy at new
  rw [alone] at new
  exact ⟨later.read displaced, new, incumbent⟩

end Commits

section Cut

variable {log : List DurableRecord} {first second : DurableRecord} {intent : CommitIntent}
    {plan previous : Plan}
  (left : Spells first (supersededPlan previous plan.ref))
  (right : Spells second (displacingPlan plan intent previous.ref))
  (decodes : Decodes (log ++ [first, second]))

include left decodes in
theorem recoveredPlans_first (id : PlanId) : (recoveredPlans (log ++ [first])).find? id =
    if id = previous.id then some (restored (supersededPlan previous plan.ref).durable)
    else (recoveredPlans log).find? id :=
  recoveredPlans_plan log left (decodes first (by simp) left.1.1) id

include right decodes in
theorem recoveredPlans_second (id : PlanId) : (recoveredPlans (log ++ [first, second])).find? id =
    if id = plan.id then some (restored (displacingPlan plan intent previous.ref).durable)
    else (recoveredPlans (log ++ [first])).find? id := by
  have recovered := recoveredPlans_plan (log ++ [first]) right (decodes second (by simp) right.1.1) id
  rw [List.append_assoc] at recovered
  exact recovered

include left right decodes in
/-- The process ends between the two records: the old plan is read as behind them, the new one as before. -/
theorem recovers_between (apart : previous.id ≠ plan.id)
    (before : (unbegun previous).Reads previous plan log)
    (behind : (complete previous plan).Reads previous plan (log ++ [first, second]))
    (single : ∀ id read, (recoveredPlans log).find? id = some read → read.state = .committed →
      id = previous.id) :
    (halfway plan).Reads previous plan (log ++ [first]) := by
  have old := behind.displaced
  have new := before.displacing
  have kept := recoveredPlans_first left decodes plan.id
  rw [if_neg (Ne.symm apart)] at kept
  unfold Holds at old new
  rw [recoveredPlans_second right decodes, if_neg apart] at old
  rw [← kept] at new
  have uncommitted : ∀ id read, (recoveredPlans (log ++ [first])).find? id = some read →
      read.state ≠ .committed := by
    intro id read present leads
    by_cases here : id = previous.id
    · obtain ⟨held, found, state, -⟩ := old
      rw [here, found, Option.some.injEq] at present
      rw [← present, state] at leads
      cases leads
    · rw [recoveredPlans_first left decodes, if_neg here] at present
      exact here (single id read present leads)
  have none : ∀ id read, (recoveredPlans (log ++ [first])).find? id = some read → read.state = .committed →
      read.ref = default := fun id read present leads => absurd leads (uncommitted id read present)
  exact ⟨old, new, (recoveredIncumbent_eq none).2 uncommitted⟩

include left right decodes in
/-- Every other plan is read from the records before the commit. -/
theorem recoveredPlans_cut {id : PlanId} (displaced : id ≠ previous.id)
    (displacing : id ≠ plan.id) (cut : Nat) :
    (recoveredPlans (log ++ [first, second].take cut)).find? id = (recoveredPlans log).find? id := by
  match cut with
  | 0 => rw [List.take_zero, List.append_nil]
  | 1 =>
      rw [List.take_succ_cons, List.take_zero, recoveredPlans_first left decodes, if_neg displaced]
  | cut + 2 =>
      rw [List.take_of_length_le (Nat.le_add_left 2 cut), recoveredPlans_second right decodes,
        if_neg displacing,
        recoveredPlans_first left decodes, if_neg displaced]

end Cut

/-- A displacing commit at the end of a run writes two records. Whoever starts on the log before the first
finds the commit unbegun, behind the second finds it complete, and between them finds no committed plan. All
other plans are found as they are in memory. -/
theorem commit_crashes (config : EngineConfig) {journal : Journal}
    (blank : ∀ record ∈ PlanRepository.records journal.repository, record.type ≠ .plan)
    {events : List Event}
    (along : Runs.Along occur Event.Undamaged (opened config journal) events) {engine : Engine durable}
    (reached : engine = events.foldl occur (opened config journal)) {ref : PlanRef} {intent : CommitIntent}
    {plan previous : Plan} (found : engine.plans.find? ref.id = some plan)
    (current : plan.generation = ref.generation) (commits : Commits engine plan intent)
    (displaces : engine.supersededByCommit plan = some previous)
    (faithful : Faithful engine (.commit ref intent)) :
    ∃ first second, (engine.apply (.commit ref intent)).log = engine.log ++ [first, second] ∧
      (unbegun previous).Recovers previous plan engine.log ∧
      (halfway plan).Recovers previous plan (engine.log ++ [first]) ∧
      (complete previous plan).Recovers previous plan (engine.log ++ [first, second]) ∧
      ∀ cut next left, PlanRepository.records left.repository = engine.log ++ [first, second].take cut →
        ∀ id, id ≠ previous.id → id ≠ plan.id →
          Option.Rel Restores (engine.plans.find? id) ((recoveredFrom next left).plans.find? id) := by
  have mirrored : Mirrored engine := by
    rw [reached]
    exact run_mirrored config blank along
  have later := mirrored.call faithful
  have writes := displacing_writes found current commits displaces
  have clean := faithful.unfailing trivial
  have decodes := faithful.decodes
  rw [apply_eq_call] at clean decodes later ⊢
  obtain ⟨-, records, grown, spells⟩ := writes.recorded clean mirrored.attached
  obtain stored | ⟨absurdity, -⟩ := writes.settled clean
  swap
  · cases absurdity
  cases spells with
  | cons left rest =>
  cases rest with
  | cons right rest =>
  cases rest
  rename_i first second
  obtain ⟨differs, there, committed⟩ := supersededByCommit_eq displaces
  have live : isLive plan.state = true := by
    rw [commits.authorized]
    rfl
  rw [← mirrored.lineage.keyed _ plan found] at found
  have key := mirrored.lineage.keyed _ previous there
  rw [← key] at there differs
  have alone := (mirrored.lineage.fresh _ plan found live).2
  have before := mirrored.recovers_before found there live committed
  have behind := later.recovers_behind differs stored alone
  rw [grown] at behind decodes
  have between := recovers_between left right decodes differs before behind fun id read present leads =>
    mirrored.committed_read there committed present leads
  refine ⟨first, second, grown, before.recovers, between.recovers, behind.recovers, ?_⟩
  intro cut next journal records id displaced displacing
  rw [(recoveredFrom_eq next journal).1, records,
    recoveredPlans_cut left right decodes displaced displacing cut]
  exact mirrored.mirrors id

/-! The commit of the second plan of the link fabric. -/

theorem Recordable.displacing {plan : Plan} (recordable : Recordable plan) {intent : CommitIntent}
    (named : intent.commit.valid = true ∧ intent.commitGeneration.valid = true) {previous : PlanRef}
    (valid : previous.Readable) : Recordable (displacingPlan plan intent previous) :=
  (recordable.committed named).with_body ⟨rfl, rfl, rfl, rfl, rfl, rfl, rfl⟩ rfl valid
    recordable.readable.supersededBy (fun _ => named.2)
    ((recordable.committed named).body.same ⟨rfl, rfl, rfl, rfl, rfl⟩)

/-- The commit writes both plans. -/
theorem Written.commit {engine : Engine durable} {first second : PlanId} {committed waiting : Plan}
    {written : List Plan} (holds : Written engine first second committed waiting written) :
    (engine.apply (.commit ⟨second, Gen.first⟩ linkIntent)).repository =
      appendEach (some (boundedJournal 16))
        (written ++ [supersededPlan committed waiting.ref,
          displacingPlan waiting linkIntent committed.ref]) := by
  have healthy : (boundedJournal 16).Healthy (written.length + 7) := by
    rw [holds.count]
    exact boundedJournal_healthy 16
  obtain ⟨last, found, still⟩ := appendEach_healthy written healthy holds.recordable
  have current : waiting.generation = (⟨second, Gen.first⟩ : PlanRef).generation :=
    congrArg Ref.generation holds.waits.current
  have writes := displacing_writes holds.waits.present current holds.waits.commits holds.waits.displaces
  have replaced : Recordable (supersededPlan committed waiting.ref) :=
    holds.plans.1.superseded fun _ => holds.plans.2.readable.named.2
  have one : (writeAll (some last : Option durable.Repository) [supersededPlan committed waiting.ref]).1 =
      .ok () := by
    rw [writeAll_one]
    exact (Journal.Healthy.append last _ still replaced.fits).1
  rw [apply_eq_call, writes.repository, holds.logged, appendEach_append, found]
  have split := writeAll_append (some last : Option durable.Repository)
    [supersededPlan committed waiting.ref]
    [displacingPlan waiting linkIntent committed.ref]
  cases answered : writeAll (some last : Option durable.Repository)
    [supersededPlan committed waiting.ref] with
  | mk answer next =>
      rw [answered] at one split
      change answer = .ok () at one
      subst one
      rw [List.singleton_append] at split
      rw [split]
      unfold appendEach
      rw [List.foldl_cons, answered]
      rfl

theorem run_concat (engine : Engine durable) (operations : List (Operation durable))
    (last : Operation durable) :
    engine.run (operations ++ [last]) = (engine.run operations).apply last := by
  unfold run
  rw [List.foldl_append, List.foldl_cons, List.foldl_nil]

/-- The calls with the commit do no damage. -/
theorem twoPlansCalls_faithful {first second : PlanId} (different : first ≠ second)
    (valid : first.valid = true ∧ second.valid = true) :
    ∃ committed waiting, Waiting ((opened {} (boundedJournal 16)).run (twoPlansCalls first second))
        (some (boundedJournal 16)) first second none (linkOutcome {}) committed waiting ∧
      Runs.Along occur Event.Undamaged (opened {} (boundedJournal 16))
        ((twoPlansCalls first second).map Event.call) ∧
      Faithful ((opened {} (boundedJournal 16)).run (twoPlansCalls first second))
        (.commit ⟨second, Gen.first⟩ linkIntent) := by
  obtain ⟨committed, waiting, written, holds⟩ := twoPlansCalls_written different valid
  let last : List Plan :=
    [supersededPlan committed waiting.ref, displacingPlan waiting linkIntent committed.ref]
  have few : (written ++ last).length ≤ 16 := by
    rw [List.length_append, holds.count]
    exact Nat.le_add_right 11 5
  have recordable : ∀ plan ∈ written ++ last, Recordable plan := by
    intro plan member
    rcases List.mem_append.1 member with earlier | member
    · exact holds.recordable plan earlier
    · simp only [last, List.mem_cons, List.not_mem_nil, or_false] at member
      rcases member with rfl | rfl
      · exact holds.plans.1.superseded fun _ => holds.plans.2.readable.named.2
      · exact holds.plans.2.displacing ⟨rfl, rfl⟩ fun _ => holds.plans.1.readable.named.2
  have writing : ∀ operation ∈ twoPlansCalls first second ++ [.commit ⟨second, Gen.first⟩ linkIntent],
      operation.Writing := by
    intro operation member
    rcases List.mem_append.1 member with earlier | member
    · exact twoPlansCalls_writing first second operation earlier
    · rw [List.mem_singleton] at member
      rw [member]
      trivial
  have logged : ((opened {} (boundedJournal 16)).run
      (twoPlansCalls first second ++ [.commit ⟨second, Gen.first⟩ linkIntent])).repository =
      appendEach (some (boundedJournal 16)) (written ++ last) := by
    rw [run_concat]
    exact holds.commit
  have along := along_boundedJournal writing logged few recordable
  rw [List.map_append, Runs.along_append, foldl_calls, List.map_cons, Runs.Along] at along
  exact ⟨committed, waiting, holds.waits, along.1, along.2.1⟩

/-- The second plan displaces the first: what is found before, between and behind the two records. -/
theorem commit_crashes_twoPlans :
    ∃ (engine : Engine durable) (plan previous : Plan) (first second : DurableRecord),
      engine = (opened {} (boundedJournal 16)).run (twoPlansCalls (named "plan-1") (named "plan-2")) ∧
      (engine.apply (.commit ⟨named "plan-2", Gen.first⟩ linkIntent)).log = engine.log ++ [first, second] ∧
      (unbegun previous).Recovers previous plan engine.log ∧
      (halfway plan).Recovers previous plan (engine.log ++ [first]) ∧
      (complete previous plan).Recovers previous plan (engine.log ++ [first, second]) := by
  have different : (named "plan-1" : PlanId) ≠ named "plan-2" := by decide
  have valid : (named "plan-1" : PlanId).valid = true ∧ (named "plan-2" : PlanId).valid = true := by decide
  generalize (named "plan-1" : PlanId) = older, (named "plan-2" : PlanId) = newer at different valid ⊢
  obtain ⟨previous, plan, waits, along, faithful⟩ := twoPlansCalls_faithful different valid
  have current : plan.generation = (⟨newer, Gen.first⟩ : PlanRef).generation :=
    congrArg Ref.generation waits.current
  have found : ((opened {} (boundedJournal 16)).run (twoPlansCalls older newer)).plans.find?
      (⟨newer, Gen.first⟩ : PlanRef).id = some plan := waits.present
  obtain ⟨first, second, grown, before, between, behind, -⟩ :=
    commit_crashes {} (boundedJournal_blank 16) along
    (foldl_calls _ _).symm found current waits.commits waits.displaces faithful
  exact ⟨_, plan, previous, first, second, rfl, grown, before, between, behind⟩

end Engine

end TrafficFabric
