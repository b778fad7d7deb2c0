import TrafficFabric.EngineLog
import TrafficFabric.EnginePipeline

set_option autoImplicit false

/- Calls with an append that fails. Memory is changed before the append, and what a failed call
has changed is answered from later on. -/
namespace TrafficFabric

open PlanStateMachine (canTransition isLive)

theorem PlanStateMachine.canTransition_irrefl (state : PlanState) : canTransition state state = false := by
  unfold canTransition
  rw [if_pos rfl]

namespace Engine

section Changes

variable {storage : Storage} {engine : Engine storage}

/-- Every recorded change moves the plan to another state. -/
theorem Change.moves {plan next : Plan} {operation : Operation storage} {incumbent : PlanRef}
    (change : Change engine plan operation incumbent next) : next.state ≠ plan.state := by
  cases change with
  | validated declared =>
      rw [declared]
      nofun
  | outdated advancing =>
      intro same
      rcases advancing with live | committed
      · rw [← same] at live
        cases live
      · rw [← same] at committed
        cases committed
  | contradicted advancing =>
      intro same
      rw [← same] at advancing
      cases advancing
  | unsolvable solves =>
      rw [solves.validated]
      nofun
  | solved solves =>
      rename_i ref outcome found
      rw [solves.validated]
      change (solvedPlan { plan with state := .solving } outcome engine.tick).state ≠ .validated
      unfold solvedPlan
      dsimp only
      cases outcome.status <;> nofun
  | forbidden degraded =>
      rw [degraded]
      nofun
  | authorized gates =>
      rcases gates.proposed with proposed | degraded
      · rw [proposed]
        nofun
      · rw [degraded]
        nofun
  | unverified authorized =>
      rw [authorized]
      nofun
  | committed commits =>
      rw [commits.authorized]
      nofun
  | marked edge =>
      intro same
      rw [← same, show ({ plan with state := .stale, applicability := .stale } : Plan).state =
        .stale from rfl, PlanStateMachine.canTransition_irrefl] at edge
      cases edge
  | retired edge =>
      intro same
      rw [← same, show ({ plan with state := .retired, applicability := .retired } : Plan).state =
        .retired from rfl, PlanStateMachine.canTransition_irrefl] at edge
      cases edge

/-- A plan in another state makes another map. -/
theorem plans_differ {before after : OrdMap PlanId Plan} {id : PlanId} {plan later : Plan}
    (found : before.find? id = some plan) (present : after.find? id = some later)
    (moved : later.state ≠ plan.state) : after ≠ before := by
  intro same
  rw [same, found, Option.some.injEq] at present
  exact moved (congrArg Plan.state present.symm)

/-- The calls that change a plan before they append it. -/
def Operation.Mutating : Operation storage → Prop
  | .submitSnapshot _ | .validate _ | .solve _ | .authorize _ | .commit _ _ | .supersede _ _
  | .markStale _ | .retire _ => True
  | _ => False

theorem Operation.Mutating.writing {operation : Operation storage} (mutating : operation.Mutating) :
    operation.Writing := by
  cases operation <;> first | exact mutating.elim | trivial

theorem markStale_eq {plan : Plan} {ref : PlanRef} (found : engine.plans.find? ref.id = some plan)
    (edge : canTransition plan.state .stale = true) :
    engine.call (.markStale ref) = engine.countStale.record
      { plan with state := .stale, applicability := .stale } (.ok () : Status) := by
  change (statusOf (engine.markStale ref).1, (engine.markStale ref).2) = _
  unfold markStale
  simp only [found, edge, Bool.not_true, Bool.false_eq_true, if_false]
  exact record_status _ _ _

end Changes

variable {engine : Engine durable}

theorem Clean.of_same {after : Engine durable} (same : after.repository = engine.repository) :
    Clean engine after := by
  refine ⟨[], ?_, fun _ member => absurd member List.not_mem_nil⟩
  unfold outcomes
  rw [same, List.append_nil]

/-- A call of which an append fails has changed the plans. -/
theorem call_changes (keyed : Keyed engine.plans) {operation : Operation durable}
    (mutating : operation.Mutating) (failed : ¬ Clean engine (engine.call operation).2) :
    (engine.call operation).2.plans ≠ engine.plans := by
  generalize answered : engine.call operation = result at failed
  have effect := call_effect engine operation
  rw [answered] at effect
  cases effect with
  | refused | replayed | deferred | noted => exact absurd (Clean.of_same rfl) failed
  | recorded target found frame change honest =>
      rename_i id plan next counted answer
      have key : next.id = id := by rw [change.binding.id, keyed id plan found]
      refine plans_differ found ?_ change.moves
      rw [record_plans, frame.plans, key]
      exact OrdMap.find?_insert_self _ _ _
  | displaced found frame commits displaces settled =>
      rename_i ref intent plan previous counted
      have moved : (displacingPlan plan intent previous.ref).state ≠ plan.state := by
        rw [commits.authorized]
        nofun
      refine plans_differ found ?_ moved
      rw [recordBoth_plans, frame.plans, (displacingPlan_binding plan intent previous.ref).id,
        keyed ref.id plan found]
      exact OrdMap.find?_insert_self _ _ _
  | superseded found present frame settled committed different =>
      rename_i incumbentRef replacementRef incumbent replacement counted
      have other : incumbentRef.id ≠ replacementRef.id := by
        rw [← keyed incumbentRef.id incumbent found, ← keyed replacementRef.id replacement present]
        exact different
      have moved : (supersededPlan incumbent replacement.ref).state ≠ incumbent.state := by
        rw [committed.1]
        nofun
      refine plans_differ found ?_ moved
      rw [recordBoth_plans, frame.plans, (supersededPlan_binding incumbent replacement.ref).id,
        (supersedingPlan_binding replacement incumbent.ref).id, keyed incumbentRef.id incumbent found,
        keyed replacementRef.id replacement present, OrdMap.find?_insert_ne _ _ _ _ other]
      exact OrdMap.find?_insert_self _ _ _
  | submitted accepted =>
      rename_i raw
      obtain ⟨written, demotions⟩ :=
        demoteOutdated_demotions engine.plans.keys (engine.withSnapshot (canonicalize raw)) keyed
      cases written with
      | nil =>
          have same := demotions.repository
          rw [writeAll_nil] at same
          exact absurd (Clean.of_same same) failed
      | cons first rest =>
          obtain ⟨later, within, key, found⟩ :=
            storeAll_find? engine.plans (List.mem_cons_self : first ∈ first :: rest)
          obtain ⟨plan, before, advancing, -, rfl⟩ := demotions.outdated later within
          rw [key] at before
          refine plans_differ before (by rw [demotions.plans]; exact found) ?_
          intro same
          rcases advancing with live | committed
          · rw [← same] at live
            cases live
          · rw [← same] at committed
            cases committed
  | attached | detached | shared | undeclared | declared | recovered => exact mutating.elim

/-- The call answers with the error of an append that it has made. -/
def FailsWith (engine : Engine durable) (operation : Operation durable) (reason : Error) : Prop :=
  (engine.call operation).1 = .error reason ∧
    ∃ answers, (engine.apply operation).outcomes = engine.outcomes ++ answers ∧ .error reason ∈ answers

/-- A call that answers with the error of its append has changed nothing that is visible. -/
def DurableFirst (engine : Engine durable) (operation : Operation durable) : Prop :=
  ∀ reason, FailsWith engine operation reason →
    (engine.apply operation).plans = engine.plans ∧
    (engine.apply operation).incumbent = engine.incumbent ∧
    (engine.apply operation).snapshot = engine.snapshot ∧
    (engine.apply operation).live = engine.live

theorem Clean.durableFirst {operation : Operation durable}
    (clean : Clean engine (engine.apply operation)) : DurableFirst engine operation := by
  rintro reason ⟨-, answers, grown, member⟩
  obtain ⟨others, same, fine⟩ := clean
  rw [grown, List.append_cancel_left_eq] at same
  rw [same] at member
  exact absurd (fine _ member) nofun

/-- The call is only durable before it is visible where no append of it fails. -/
theorem clean_of_durableFirst (keyed : Keyed engine.plans) {operation : Operation durable}
    (mutating : operation.Mutating) (durableFirst : DurableFirst engine operation) :
    Clean engine (engine.apply operation) := by
  by_contra failed
  obtain ⟨written, writes⟩ := call_writes keyed mutating.writing
  rw [apply_eq_call] at failed
  have changed := call_changes keyed mutating failed
  cases status : (writeAll engine.repository written).1 with
  | ok => exact failed (writes.clean_iff.2 status)
  | error reason =>
      obtain ⟨answers, grown, -, member⟩ := writes.answers
      have visible : FailsWith engine operation reason := by
        refine ⟨writes.failed reason status, answers, ?_, member reason status⟩
        rw [apply_eq_call]
        exact grown
      have same := (durableFirst reason visible).1
      rw [apply_eq_call] at same
      exact changed same

/-- In every state that is reached, the eight calls that change plans are durable before they are
visible exactly when none of their appends fails. -/
theorem durableFirst_iff (config : EngineConfig) (history : List (Operation durable))
    (operation : Operation durable) (mutating : operation.Mutating) :
    DurableFirst ((new config).run history) operation ↔
      Clean ((new config).run history) (((new config).run history).apply operation) :=
  ⟨clean_of_durableFirst (run_steady config history).sound.keyed mutating, Clean.durableFirst⟩

/-! A repository that is full. -/

/-- Nothing is written to it, and the first append fails. -/
theorem writeAll_full {journal : Journal} (full : journal.Full) (written : List Plan) :
    (∃ next, (writeAll (some journal : Option durable.Repository) written).2 = some next ∧
      Journal.Full next ∧
      PlanRepository.records (Journal.repository next) = journal.repository.records) ∧
    (written ≠ [] → (writeAll (some journal : Option durable.Repository) written).1 ≠ .ok ()) := by
  cases written with
  | nil =>
      rw [writeAll_nil]
      exact ⟨⟨journal, rfl, full, rfl⟩, fun some => absurd rfl some⟩
  | cons plan rest =>
      obtain ⟨⟨reason, failed⟩, same, still⟩ := full.append journal .plan (encodePlan plan)
      have appended : durable.append journal .plan (durable.encodePlan plan) =
          (.error reason, (journal.append .plan (encodePlan plan)).2) := by
        rw [← failed]
      rw [writeAll_cons, appended]
      exact ⟨⟨_, rfl, still, same⟩, fun _ => nofun⟩

/-- A repository with a bound on its records. -/
def boundedJournal (bound : UInt64) : Journal :=
  { repository :=
      { options := { maxRecords := bound }
        journalOpen := true } }

theorem boundedJournal_healthy (bound : UInt64) : (boundedJournal bound).Healthy bound.toNat :=
  { opened := ⟨rfl, rfl⟩
    quiet := rfl
    below := (Nat.zero_add _).le
    clean := fun _ member => absurd member List.not_mem_nil }

/-- One record fills a repository with room for one. -/
theorem boundedJournal_fills {plan : Plan} (recordable : Recordable plan) :
    ∃ record next, (writeAll (some (boundedJournal 1) : Option durable.Repository) [plan]).2 = some next ∧
      Journal.Full next ∧ PlanRepository.records (Journal.repository next) = [record] ∧
      Journal.Says record .plan (encodePlan plan) := by
  obtain ⟨answered, -, options⟩ :=
    Journal.Healthy.append (boundedJournal 1) _ (boundedJournal_healthy 1) recordable.fits
  obtain ⟨record, made, -, grown⟩ := (boundedJournal 1).append_ok .plan (encodePlan plan) answered
  refine ⟨record, ((boundedJournal 1).append .plan (encodePlan plan)).2, ?_, ?_, grown, made⟩
  · rw [writeAll_one]
  · unfold Journal.Full
    rw [options, grown]
    exact Nat.le_refl 1

/-- One plan of the link fabric is declared. -/
def declaredHistory (bound : UInt64) (id : PlanId) : List (Operation durable) :=
  linkHistory (some (boundedJournal bound)) ++ [.declare (linkRequest id none)]

/-- The declaration takes the first record. -/
theorem run_declaredHistory {id : PlanId} (valid : id.valid = true) (bound : UInt64)
    (room : 1 ≤ bound.toNat) :
    ∃ plan journal, ((new {}).run (declaredHistory bound id)).plans.find? id = some plan ∧
      plan.state = .declared ∧ Recordable plan ∧
      ((new {}).run (declaredHistory bound id)).repository = some journal ∧
      journal.Healthy (bound.toNat - 1) ∧ (bound = 1 → journal.Full) := by
  obtain ⟨more, split⟩ := Nat.exists_eq_add_of_le' room
  have healthy : (boundedJournal bound).Healthy (more + 1) := by
    rw [← split]
    exact boundedJournal_healthy bound
  have one : (boundedJournal bound).Healthy 1 :=
    ⟨healthy.opened, healthy.quiet, (Nat.add_le_add_left (Nat.le_add_left 1 more) _).trans healthy.below,
      healthy.clean⟩
  let start : Option durable.Repository := some (boundedJournal bound)
  have declarable := linkRequest_first valid (accepting_healthy one)
  have recordable := (linkPlan_recordable valid (linkEngine_ahead start)).1
  let plan := (linkEngine start).declaredPlan (linkRequest id none)
  obtain ⟨-, still, -⟩ := healthy.append (boundedJournal bound) _ recordable.fits
  have attached : (linkEngine start).repository = start := by
    rw [linkEngine_eq]
    rfl
  refine ⟨plan, ((boundedJournal bound).append .plan (encodePlan plan)).2, ?_, rfl, recordable, ?_, ?_, ?_⟩
  · unfold declaredHistory
    rw [run_linkHistory]
    change ((linkEngine start).declare (linkRequest id none)).2.plans.find? id = some plan
    rw [declare_eq declarable]
    exact OrdMap.find?_insert_self _ _ _
  · unfold declaredHistory
    rw [run_linkHistory]
    change ((linkEngine start).declare (linkRequest id none)).2.repository = _
    rw [(declare_others declarable).2.2, attached]
    change (writeAll (some (boundedJournal bound) : Option durable.Repository) [plan]).2 = _
    rw [writeAll_one]
  · have same : bound.toNat - 1 = more := by omega
    rw [same]
    exact still
  · rintro rfl
    obtain ⟨record, next, wrote, full, -, -⟩ := boundedJournal_fills recordable
    rw [writeAll_one, Option.some.injEq] at wrote
    rw [wrote]
    exact full

/-- Marking a plan writes one record. -/
theorem markStale_writes {plan : Plan} {ref : PlanRef} (found : engine.plans.find? ref.id = some plan)
    (declared : plan.state = .declared) :
    Writes engine (.markStale ref) [{ plan with state := .stale, applicability := .stale }]
      (engine.call (.markStale ref)) := by
  have edge : canTransition plan.state .stale = true := by
    rw [declared]
    rfl
  rw [markStale_eq found edge]
  exact Writes.record ⟨rfl, rfl, rfl, rfl, rfl, rfl, rfl⟩

theorem durableFirst_markStale :
    DurableFirst ((new {}).run (declaredHistory 2 (named "plan-1")))
      (.markStale ⟨named "plan-1", Gen.first⟩) := by
  have valid : (named "plan-1" : PlanId).valid = true := by decide
  generalize (named "plan-1" : PlanId) = id at valid
  obtain ⟨plan, journal, found, declared, recordable, attached, healthy, -⟩ :=
    run_declaredHistory valid 2 (by decide)
  refine (durableFirst_iff {} (declaredHistory 2 id) (.markStale ⟨id, Gen.first⟩) trivial).2 ?_
  rw [apply_eq_call]
  refine (markStale_writes found declared).clean_iff.2 ?_
  rw [attached, writeAll_one]
  exact (Journal.Healthy.append journal _ healthy (recordable.moved .stale .stale).fits).1

/-- The record of the stale plan is refused, and the plan is stale in memory. -/
theorem markStale_undurable :
    ((new {}).run (declaredHistory 1 (named "plan-1"))).repository ≠ none ∧
      ¬ DurableFirst ((new {}).run (declaredHistory 1 (named "plan-1")))
        (.markStale ⟨named "plan-1", Gen.first⟩) := by
  have valid : (named "plan-1" : PlanId).valid = true := by decide
  generalize (named "plan-1" : PlanId) = id at valid
  obtain ⟨plan, journal, found, declared, -, attached, -, full⟩ :=
    run_declaredHistory valid 1 (by decide)
  refine ⟨by rw [attached]; exact Option.some_ne_none journal, ?_⟩
  intro durableFirst
  have keyed := (run_steady {} (declaredHistory 1 id)).sound.keyed
  have clean := clean_of_durableFirst keyed (by trivial) durableFirst
  rw [apply_eq_call, (markStale_writes found declared).clean_iff, attached] at clean
  exact (writeAll_full (full rfl) _).2 (List.cons_ne_nil _ _) clean

/-! Acknowledged commits. -/

/-- The log has a record of the plan, in the committed state and under the commit. -/
def CommitRecorded (log : List DurableRecord) (id : PlanId) (commit : CommitId) (generation : Gen .commit) :
    Prop :=
  ∃ record ∈ log, record.type = .plan ∧
    ∃ plan, (record.payload = encodePlan plan ∨ decodePlan record.payload = .ok plan) ∧ plan.id = id ∧
      plan.state = .committed ∧ plan.commit = commit ∧ plan.commitGeneration = generation

theorem CommitRecorded.mono {before after : List DurableRecord} {id : PlanId} {commit : CommitId}
    {generation : Gen .commit} (recorded : CommitRecorded before id commit generation)
    (grown : before <+: after) : CommitRecorded after id commit generation := by
  obtain ⟨record, member, spelled⟩ := recorded
  exact ⟨record, grown.subset member, spelled⟩

/-- Every committed plan of an engine with a repository has its record. -/
def CommitsRecorded (engine : Engine durable) : Prop :=
  engine.repository ≠ none → ∀ id plan, engine.plans.find? id = some plan → plan.state = .committed →
    CommitRecorded engine.log id plan.commit plan.commitGeneration

/-- No append of a commit fails, and who else writes to the repository only adds records. -/
def CommitUnfailing (engine : Engine durable) : Operation durable → Prop
  | .commit ref intent => Clean engine (engine.apply (.commit ref intent))
  | .sharedWrite journal => engine.log <+: PlanRepository.records (Journal.repository journal)
  | _ => True

/-- What a commit without a failed append makes committed has its record. -/
theorem commit_recorded (keyed : Keyed engine.plans) {ref : PlanRef} {intent : CommitIntent}
    (clean : Clean engine (engine.call (.commit ref intent)).2) (attached : engine.repository ≠ none)
    {id : PlanId} {later : Plan} (found : (engine.call (.commit ref intent)).2.plans.find? id = some later)
    (committed : later.state = .committed)
    (fresh : ∀ plan, engine.plans.find? id = some plan → plan.state ≠ .committed) :
    CommitRecorded (engine.call (.commit ref intent)).2.log id later.commit later.commitGeneration := by
  have writing : (Operation.commit ref intent : Operation durable).Writing := trivial
  obtain ⟨written, writes⟩ := call_writes keyed writing
  rcases writes.spelled clean attached found with ⟨⟨record, member, spells⟩, key⟩ | before | ⟨plan, noted⟩
  · exact ⟨record, member, spells.1.1, later, Or.inl spells.1.2, key, committed, rfl, rfl⟩
  · exact absurd committed (fresh later before)
  · cases noted

theorem recover_repository (engine : Engine durable) :
    (engine.call .recoverFromRepository).2.repository = engine.repository := by
  generalize answered : engine.call .recoverFromRepository = result
  have effect := call_effect engine .recoverFromRepository
  rw [answered] at effect
  cases effect with
  | refused | recovered => rfl
  | noted target | recorded target => cases target

theorem call_commitsRecorded (keyed : Keyed engine.plans) (recorded : CommitsRecorded engine)
    {operation : Operation durable} (unfailing : CommitUnfailing engine operation) :
    CommitsRecorded (engine.call operation).2 := by
  intro attached id later found committed
  have shared : ∀ journal, operation = .sharedWrite journal →
      engine.log <+: PlanRepository.records (Journal.repository journal) := by
    rintro journal rfl
    exact unfailing
  rcases call_plan keyed found with ⟨plan, before, step⟩ | ⟨-, fresh⟩
  · rcases call_grows keyed shared attached with ⟨held, grown⟩ | empty
    · rcases step.committed committed with ⟨was, commit, generation⟩ | ⟨ref, intent, rfl, -, commits, -, -⟩
      · rw [commit, generation]
        exact (recorded held id plan before was).mono grown
      · have clean : Clean engine (engine.apply (.commit ref intent)) := unfailing
        rw [apply_eq_call] at clean
        refine commit_recorded keyed clean held found committed ?_
        intro other present
        rw [before, Option.some.injEq] at present
        rw [← present, commits.authorized]
        nofun
    · rw [find?_of_empty empty] at before
      cases before
  · cases fresh with
    | declared => cases committed
    | restored present read =>
        rename_i journal plan
        obtain ⟨key, record, member, isPlan, decoded⟩ :=
          collapse_collapsed durable (durable.records journal) id plan read
        have lineage : (restored plan).commit = plan.commit ∧
            (restored plan).commitGeneration = plan.commitGeneration := by
          unfold restored
          split <;> exact ⟨rfl, rfl⟩
        rw [lineage.1, lineage.2]
        refine ⟨record, ?_, isPlan, plan, Or.inr decoded, key, restored_committed committed, rfl, rfl⟩
        rw [log_some ((recover_repository engine).trans present)]
        exact member

/-- What an acknowledged commit leaves in memory. -/
theorem commit_acknowledged (keyed : Keyed engine.plans) {ref : PlanRef} {intent : CommitIntent}
    (acknowledged : (engine.call (.commit ref intent)).1 = .ok ()) :
    ∃ plan, (engine.call (.commit ref intent)).2.plans.find? ref.id = some plan ∧
      plan.state = .committed ∧ plan.commit = intent.commit ∧
      plan.commitGeneration = intent.commitGeneration := by
  generalize answered : engine.call (.commit ref intent) = result at acknowledged
  have effect := call_effect engine (.commit ref intent)
  rw [answered] at effect
  cases effect with
  | refused => cases acknowledged
  | replayed found committed same => exact ⟨_, found, committed, same⟩
  | noted _ _ noted => cases noted
  | recorded target found frame change honest =>
      rename_i id plan next counted answer
      have key : next.id = ref.id := by
        rw [change.binding.id, keyed id plan found]
        exact (Option.some.inj target).symm
      have answer_ok : answer = .ok () := by
        rw [record_write] at acknowledged
        cases wrote : (writeAll counted.repository [next]).1 with
        | error reason =>
            rw [wrote] at acknowledged
            cases acknowledged
        | ok =>
            rw [wrote] at acknowledged
            exact acknowledged
      have committed := honest ref intent rfl answer_ok
      refine ⟨next, ?_, committed, ?_⟩
      · rw [record_plans, key]
        exact OrdMap.find?_insert_self _ _ _
      · rcases (PlanStep.recorded target change).committed committed with
          ⟨was, -, -⟩ | ⟨_, _, same, -, -, named, -⟩
        · exact absurd (committed.trans was.symm) change.moves
        · cases same
          exact named
  | displaced found frame commits displaces settled =>
      rename_i plan previous counted
      refine ⟨displacingPlan plan intent previous.ref, ?_, rfl, rfl, rfl⟩
      rw [recordBoth_plans, show (displacingPlan plan intent previous.ref).id = ref.id from
        keyed ref.id plan found]
      exact OrdMap.find?_insert_self _ _ _

/-- The commit is acknowledged, and its record is in the log. -/
def CommitDurable (engine : Engine durable) (ref : PlanRef) (intent : CommitIntent) : Prop :=
  (engine.call (.commit ref intent)).1 = .ok () →
    CommitRecorded (engine.apply (.commit ref intent)).log ref.id intent.commit intent.commitGeneration

/-- In every run in which no append of a commit fails, the commits that are acknowledged are durable,
those that are answered from memory included. -/
theorem commit_durable (config : EngineConfig) (history : List (Operation durable)) (ref : PlanRef)
    (intent : CommitIntent)
    (unfailing : Runs.Along apply CommitUnfailing (new config) (history ++ [.commit ref intent]))
    (attached : ((new config).run history).repository ≠ none) :
    CommitDurable ((new config).run history) ref intent := by
  intro acknowledged
  obtain ⟨past, last, -⟩ := Runs.along_append.1 unfailing
  change CommitUnfailing ((new config).run history) (.commit ref intent) at last
  have recorded : CommitsRecorded ((new config).run history) := by
    have kept := Runs.invariant (fun engine => engine.Steady ∧ CommitsRecorded engine) ?_
      ⟨new_steady config, fun none => absurd rfl none⟩ past
    · exact kept.2
    · intro engine operation held meets
      refine ⟨apply_steady held.1 operation, ?_⟩
      rw [apply_eq_call]
      exact call_commitsRecorded held.1.sound.keyed held.2 meets
  have keyed := (run_steady config history).sound.keyed
  generalize (new config).run history = engine at *
  obtain ⟨plan, found, committed, commit, generation⟩ := commit_acknowledged keyed acknowledged
  have still : (engine.call (.commit ref intent)).2.repository ≠ none := by
    obtain ⟨journal, present⟩ := Option.ne_none_iff_exists'.1 attached
    have writing : (Operation.commit ref intent : Operation durable).Writing := trivial
    obtain ⟨written, writes⟩ := call_writes keyed writing
    obtain ⟨records, next, wrote, -⟩ := writeAll_grows journal written
    rw [writes.repository, present, wrote]
    exact Option.some_ne_none next
  rw [apply_eq_call, ← commit, ← generation]
  exact call_commitsRecorded keyed recorded last still ref.id plan found committed

/-! The link fabric, committed and committed again. -/

theorem commit_replays {plan : Plan} {ref : PlanRef} {intent : CommitIntent}
    (found : engine.plans.find? ref.id = some plan) (current : plan.generation = ref.generation)
    (valid : intent.commit.valid = true ∧ intent.commitGeneration.valid = true)
    (committed : plan.state = .committed)
    (same : plan.commit = intent.commit ∧ plan.commitGeneration = intent.commitGeneration) :
    engine.call (.commit ref intent) = (.ok (), engine) := by
  have answered : engine.commit ref intent = (.ok plan, engine) := by
    unfold commit
    simp only [found]
    rw [if_neg (not_not.2 current)]
    simp only [valid, committed, same, Bool.not_true, Bool.or_self, Bool.false_eq_true, if_false, if_true,
      and_self]
  change (statusOf (engine.commit ref intent).1, (engine.commit ref intent).2) = _
  rw [answered]
  rfl

/-- The calls of the first plan, with a bounded repository. -/
def committedHistory (bound : UInt64) (id : PlanId) : List (Operation durable) :=
  linkHistory (some (boundedJournal bound)) ++ committing (linkRequest id none) linkIntent

theorem run_committedHistory {id : PlanId} (valid : id.valid = true) (bound : UInt64)
    (room : 1 ≤ bound.toNat) :
    ∃ committed written, Settled ((new {}).run (committedHistory bound id)) (some (boundedJournal bound)) id
      committed written ∧
      ((new {}).run (committedHistory bound id)).call (.commit ⟨id, Gen.first⟩ linkIntent) =
        (.ok (), (new {}).run (committedHistory bound id)) := by
  have healthy := boundedJournal_healthy bound
  have one : (boundedJournal bound).Healthy 1 :=
    ⟨healthy.opened, healthy.quiet, (Nat.add_le_add_left room _).trans healthy.below, healthy.clean⟩
  obtain ⟨committed, written, settled⟩ := linkRequest_committed valid (accepting_healthy one)
  have whole : (new {}).run (committedHistory bound id) =
      (linkEngine (some (boundedJournal bound)) : Engine durable).run
        (committing (linkRequest id none) linkIntent) := run_linkHistory _ _
  rw [whole]
  exact ⟨committed, written, settled,
    commit_replays settled.found settled.generation ⟨rfl, rfl⟩ settled.state settled.named⟩

theorem appendEach_full {journal : Journal} (full : journal.Full) (written : List Plan) :
    ∃ next, appendEach (some journal : Option durable.Repository) written = some next ∧
      PlanRepository.records (Journal.repository next) = journal.repository.records := by
  induction written generalizing journal with
  | nil => exact ⟨journal, rfl, rfl⟩
  | cons plan rest ih =>
      obtain ⟨⟨next, wrote, still, same⟩, -⟩ := writeAll_full full [plan]
      obtain ⟨last, found, records⟩ := ih still
      refine ⟨last, ?_, records.trans same⟩
      unfold appendEach
      rw [List.foldl_cons, wrote]
      exact found

/-- A record of a plan that is not committed made nothing of a commit. -/
theorem spelled_uncommitted {record : DurableRecord} {declared : Plan} (recordable : Recordable declared)
    (made : Journal.Says record .plan (encodePlan declared)) (state : declared.state ≠ .committed)
    {id : PlanId} {commit : CommitId} {generation : Gen .commit} :
    ¬ CommitRecorded [record] id commit generation := by
  rintro ⟨held, member, -, plan, spelled, -, committed, -⟩
  rw [List.mem_singleton] at member
  subst member
  have read := decodePlan_of_readable recordable.readable
  have same : plan.state = declared.state := by
    rcases spelled with encoded | decoded
    · have bounded : (encodePlan plan).length ≤ Frame.maxRecordPayload := by
        rw [← encoded, made.2]
        exact recordable.fits
      rw [← made.2, encoded] at read
      have equal := decodePlan_encodePlan (fitsRecord_of_length bounded) read
      exact (congrArg Plan.state equal).symm
    · rw [made.2, read, Except.ok.injEq] at decoded
      rw [← decoded]
      rfl
  rw [same] at committed
  exact state committed

/-- The record of the commit is refused; the commit that is tried again is acknowledged. -/
theorem commit_acknowledged_unrecorded :
    ((new {}).run (committedHistory 1 (named "plan-1"))).repository ≠ none ∧
      ¬ CommitDurable ((new {}).run (committedHistory 1 (named "plan-1"))) ⟨named "plan-1", Gen.first⟩
        linkIntent := by
  have valid : (named "plan-1" : PlanId).valid = true := by decide
  generalize (named "plan-1" : PlanId) = id at valid
  obtain ⟨committed, written, settled, replayed⟩ := run_committedHistory valid 1 (by decide)
  obtain ⟨declared, rest, rfl, state⟩ := settled.first
  have recordable := settled.recordable declared List.mem_cons_self
  obtain ⟨record, next, wrote, full, records, made⟩ := boundedJournal_fills recordable
  obtain ⟨last, found, same⟩ := appendEach_full full rest
  have logged := settled.logged
  unfold appendEach at logged
  rw [List.foldl_cons, wrote] at logged
  have attached : ((new {}).run (committedHistory 1 id)).repository = some last := logged.trans found
  refine ⟨by rw [attached]; exact Option.some_ne_none last, ?_⟩
  intro kept
  have unchanged : ((new {}).run (committedHistory 1 id)).apply (.commit ⟨id, Gen.first⟩ linkIntent) =
      (new {}).run (committedHistory 1 id) := by
    rw [apply_eq_call, replayed]
  have recorded := kept (by rw [replayed])
  rw [unchanged, log_some attached, same, records] at recorded
  refine spelled_uncommitted recordable made ?_ recorded
  rw [state]
  nofun

/-- Where every append has succeeded so far, those of the last call have. -/
theorem clean_of_quiet (keyed : Keyed engine.plans) {operation : Operation durable}
    (writing : operation.Writing) {journal : Journal} {room : Nat}
    (attached : (engine.apply operation).repository = some journal) (healthy : journal.Healthy room) :
    Clean engine (engine.apply operation) := by
  obtain ⟨written, writes⟩ := call_writes keyed writing
  obtain ⟨answers, grown, -, -⟩ := writes.answers
  rw [← apply_eq_call, outcomes_some attached] at grown
  refine ⟨answers, (outcomes_some attached).trans grown, ?_⟩
  intro answer member
  apply healthy.clean
  rw [grown]
  exact List.mem_append_right _ member

/-- The commit is the last of the calls, and the only one that its condition speaks of. -/
theorem committedHistory_split (bound : UInt64) (id : PlanId) :
    ∃ past, committedHistory bound id = past ++ [.commit ⟨id, Gen.first⟩ linkIntent] ∧
      Runs.Along apply CommitUnfailing (new {}) past := by
  refine ⟨linkHistory (some (boundedJournal bound)) ++ .declare (linkRequest id none) ::
    preparing id, ?_, ?_⟩
  · rw [List.append_assoc]
    rfl
  · exact ⟨trivial, trivial, trivial, trivial, trivial, trivial, trivial⟩

/-- With room in the repository, the commit that is tried again is answered from memory and has its
record. -/
theorem commit_durable_again :
    CommitRecorded ((new {}).run (committedHistory 5 (named "plan-1"))).log (named "plan-1")
      linkIntent.commit linkIntent.commitGeneration := by
  have valid : (named "plan-1" : PlanId).valid = true := by decide
  generalize (named "plan-1" : PlanId) = id at valid
  obtain ⟨committed, written, settled, replayed⟩ := run_committedHistory valid 5 (by decide)
  have healthy : (boundedJournal 5).Healthy (written.length + 0) := by
    rw [settled.count]
    exact boundedJournal_healthy 5
  obtain ⟨last, found, quiet⟩ := appendEach_healthy written healthy settled.recordable
  have attached : ((new {}).run (committedHistory 5 id)).repository = some last :=
    settled.logged.trans found
  obtain ⟨past, split, before⟩ := committedHistory_split 5 id
  have after : ((new {}).run past).apply (.commit ⟨id, Gen.first⟩ linkIntent) =
      (new {}).run (committedHistory 5 id) := by
    rw [split]
    unfold run
    rw [List.foldl_append, List.foldl_cons, List.foldl_nil]
  have first : CommitUnfailing ((new {}).run past) (.commit ⟨id, Gen.first⟩ linkIntent) := by
    change Clean _ (((new {}).run past).apply (.commit ⟨id, Gen.first⟩ linkIntent))
    refine clean_of_quiet (run_steady {} past).sound.keyed trivial ?_ quiet
    rw [after]
    exact attached
  have unchanged : ((new {}).run (committedHistory 5 id)).apply (.commit ⟨id, Gen.first⟩ linkIntent) =
      (new {}).run (committedHistory 5 id) := by
    rw [apply_eq_call, replayed]
  have second : CommitUnfailing ((new {}).run (committedHistory 5 id))
      (.commit ⟨id, Gen.first⟩ linkIntent) := Clean.of_same (congrArg Engine.repository unchanged)
  have unfailing : Runs.Along apply CommitUnfailing (new {})
      (committedHistory 5 id ++ [.commit ⟨id, Gen.first⟩ linkIntent]) := by
    refine Runs.along_append.2 ⟨?_, second, trivial⟩
    rw [split]
    exact Runs.along_append.2 ⟨before, first, trivial⟩
  have kept := commit_durable {} (committedHistory 5 id) ⟨id, Gen.first⟩ linkIntent unfailing
    (by rw [attached]; exact Option.some_ne_none last) (by rw [replayed])
  rw [unchanged] at kept
  exact kept

end Engine

end TrafficFabric
