import TrafficFabric.Durable
import TrafficFabric.EngineSteps

set_option autoImplicit false

/- The appends of a call. A call writes a list of plans, one after the other, up to the first
append that fails; memory changes whether it fails or not. -/
namespace TrafficFabric

namespace Engine

section Writing

variable {storage : Storage} {engine : Engine storage}

/-- Appends the plans in order. The first append that fails is the last one tried. -/
def writeAll : Option storage.Repository → List Plan → Status × Option storage.Repository
  | repository, [] => (.ok (), repository)
  | none, _ :: _ => (.ok (), none)
  | some repository, plan :: rest =>
      match storage.append repository .plan (storage.encodePlan plan) with
      | (.error reason, repository) => (.error reason, some repository)
      | (.ok (), repository) => writeAll (some repository) rest

/-- The plans stored in order. -/
def storeAll (plans : OrdMap PlanId Plan) (written : List Plan) : OrdMap PlanId Plan :=
  written.foldl (fun plans plan => plans.insert plan.id plan) plans

@[simp] theorem writeAll_nil (repository : Option storage.Repository) :
    writeAll repository [] = (.ok (), repository) := by
  cases repository <;> rfl

@[simp] theorem writeAll_none (plans : List Plan) :
    writeAll (none : Option storage.Repository) plans = (.ok (), none) := by
  cases plans <;> rfl

theorem writeAll_cons (repository : storage.Repository) (plan : Plan) (rest : List Plan) :
    writeAll (some repository) (plan :: rest) =
      match storage.append repository .plan (storage.encodePlan plan) with
      | (.error reason, next) => (.error reason, some next)
      | (.ok (), next) => writeAll (some next) rest := rfl

theorem writeAll_append (repository : Option storage.Repository) (first second : List Plan) :
    writeAll repository (first ++ second) =
      match writeAll repository first with
      | (.error reason, repository) => (.error reason, repository)
      | (.ok (), repository) => writeAll repository second := by
  induction first generalizing repository with
  | nil => rw [List.nil_append, writeAll_nil]
  | cons plan rest ih =>
      cases repository with
      | none =>
          rw [writeAll_none, writeAll_none]
          exact (writeAll_none second).symm
      | some repository =>
          rw [List.cons_append, writeAll, writeAll]
          cases storage.append repository .plan (storage.encodePlan plan) with
          | mk answer next =>
              cases answer with
              | error reason => rfl
              | ok => exact ih (some next)

theorem persist_write (engine : Engine storage) (plan : Plan) :
    engine.persist plan = ((writeAll engine.repository [plan]).1,
      { engine with repository := (writeAll engine.repository [plan]).2 }) := by
  unfold persist
  cases attached : engine.repository with
  | none =>
      rw [writeAll_none]
      dsimp only
      rw [← attached]
  | some repository =>
      dsimp only
      rw [writeAll]
      cases storage.append repository .plan (storage.encodePlan plan) with
      | mk answer next =>
          cases answer with
          | error reason => rfl
          | ok =>
              dsimp only
              rw [writeAll_nil]

/-- The answer of a call whose appends answered so. -/
def answerAfter {α : Type} (written : Status) (answer : Result α) : Result α :=
  match written with
  | .error reason => .error reason
  | .ok () => answer

theorem record_write {α : Type} (engine : Engine storage) (plan : Plan) (answer : Result α) :
    engine.record plan answer = (answerAfter (writeAll engine.repository [plan]).1 answer,
      { engine with
        plans := storeAll engine.plans [plan]
        repository := (writeAll engine.repository [plan]).2 }) := by
  have same : (engine.store plan).repository = engine.repository := rfl
  unfold record
  rw [persist_write, same]
  cases writeAll engine.repository [plan] with
  | mk status next =>
      cases status with
      | error reason => rfl
      | ok => rfl

theorem recordBoth_write {α : Type} (engine : Engine storage) (first second : Plan) (answer : Result α) :
    engine.recordBoth first second answer =
      (answerAfter (writeAll engine.repository [first, second]).1 answer,
        { engine with
          plans := storeAll engine.plans [first, second]
          repository := (writeAll engine.repository [first, second]).2 }) := by
  have split := writeAll_append engine.repository [first] [second]
  rw [List.singleton_append] at split
  have same : ((engine.store first).store second).repository = engine.repository := rfl
  unfold recordBoth
  rw [persist_write, split, same]
  cases writeAll engine.repository [first] with
  | mk status next =>
      cases status with
      | error reason => rfl
      | ok =>
          dsimp only
          rw [persist_write]
          dsimp only
          cases writeAll next [second] with
          | mk status last =>
              cases status with
              | error reason => rfl
              | ok => rfl

theorem storeAll_append (plans : OrdMap PlanId Plan) (first second : List Plan) :
    storeAll plans (first ++ second) = storeAll (storeAll plans first) second :=
  List.foldl_append

/-- Where a plan comes from that is found after some are stored. -/
theorem find?_storeAll {plans : OrdMap PlanId Plan} {written : List Plan} {id : PlanId} {later : Plan}
    (found : (storeAll plans written).find? id = some later) :
    (later ∈ written ∧ later.id = id) ∨
      plans.find? id = some later ∧ ∀ plan ∈ written, plan.id ≠ id := by
  induction written generalizing plans with
  | nil => exact Or.inr ⟨found, fun _ member => absurd member List.not_mem_nil⟩
  | cons plan rest ih =>
      rcases ih found with ⟨member, key⟩ | ⟨before, others⟩
      · exact Or.inl ⟨List.mem_cons_of_mem plan member, key⟩
      · rcases find?_insert_cases before with ⟨same, rfl⟩ | ⟨differs, before⟩
        · exact Or.inl ⟨List.mem_cons_self, same.symm⟩
        · refine Or.inr ⟨before, ?_⟩
          intro other member
          rcases List.mem_cons.1 member with rfl | member
          · exact differs.symm
          · exact others other member

/-- A plan that is stored is found, unless a later one has its identity. -/
theorem storeAll_find? (plans : OrdMap PlanId Plan) {written : List Plan} {plan : Plan}
    (member : plan ∈ written) :
    ∃ later ∈ written, later.id = plan.id ∧ (storeAll plans written).find? plan.id = some later := by
  induction written using List.reverseRecOn with
  | nil => cases member
  | append_singleton rest last ih =>
      have stored : storeAll plans (rest ++ [last]) = (storeAll plans rest).insert last.id last := by
        rw [storeAll_append]
        rfl
      rw [stored, OrdMap.find?_insert]
      by_cases same : plan.id = last.id
      · rw [if_pos same]
        exact ⟨last, List.mem_append_right rest List.mem_cons_self, same.symm, rfl⟩
      · rw [if_neg same]
        have earlier : plan ∈ rest := by
          rcases List.mem_append.1 member with earlier | here
          · exact earlier
          · rw [List.mem_singleton] at here
            exact absurd (congrArg Plan.id here) same
        obtain ⟨later, within, key, found⟩ := ih earlier
        exact ⟨later, List.mem_append_left _ within, key, found⟩

/-- The demotions of a snapshot: what is written, and that every plan of the list that is behind
has been written when no append failed. -/
structure Demotions (engine : Engine storage) (ids : List PlanId) (written : List Plan)
    (result : Status × Engine storage) : Prop where
  status : result.1 = (writeAll engine.repository written).1
  repository : result.2.repository = (writeAll engine.repository written).2
  plans : result.2.plans = storeAll engine.plans written
  outdated : ∀ later ∈ written, ∃ plan, engine.plans.find? later.id = some plan ∧ plan.Advancing ∧
    (engine.deltaOf plan).identical = false ∧ later = outdated plan (engine.deltaOf plan)
  complete : result.1 = .ok () → ∀ id ∈ ids, ∀ plan, engine.plans.find? id = some plan →
    plan.Advancing → (engine.deltaOf plan).identical = true ∨ ∃ later ∈ written, later.id = id

/-- The loop goes on behind a demotion whose append succeeded. -/
theorem demoted_first (rest : List PlanId) {id : PlanId} {plan : Plan} {done : Unit}
    {repository : Option storage.Repository}
    (ih : ∀ engine : Engine storage, Keyed engine.plans →
      ∃ written, Demotions engine rest written (engine.demoteOutdated rest))
    (keyed : Keyed engine.plans) (found : engine.plans.find? id = some plan) (advancing : plan.Advancing)
    (differs : (engine.deltaOf plan).identical = false)
    (wrote : writeAll engine.repository [outdated plan (engine.deltaOf plan)] = (.ok done, repository)) :
    ∃ written, Demotions engine (id :: rest) written
      (demoteOutdated
        { engine.countStale with
          plans := storeAll engine.plans [outdated plan (engine.deltaOf plan)]
          repository := repository } rest) := by
  let later := outdated plan (engine.deltaOf plan)
  let next : Engine storage := { engine.countStale with
    plans := storeAll engine.plans [later]
    repository := repository }
  have key : later.id = id := keyed id plan found
  have inserted : next.plans = engine.plans.insert id later := by
    change engine.plans.insert later.id later = _
    rw [key]
  have nextKeyed : Keyed next.plans := by
    intro other held present
    rw [inserted] at present
    rcases find?_insert_cases present with ⟨same, rfl⟩ | ⟨-, before⟩
    · rw [key, same]
    · exact keyed other held before
  obtain ⟨written, demotions⟩ := ih next nextKeyed
  have whole : writeAll engine.repository (later :: written) = writeAll repository written := by
    have split := writeAll_append engine.repository [later] written
    rw [wrote] at split
    exact split
  have delta : ∀ other, next.deltaOf other = engine.deltaOf other := fun _ => rfl
  refine ⟨later :: written, ?_, ?_, demotions.plans, ?_, ?_⟩
  · rw [whole]
    exact demotions.status
  · rw [whole]
    exact demotions.repository
  · intro other member
    rcases List.mem_cons.1 member with rfl | member
    · refine ⟨plan, ?_, advancing, differs, rfl⟩
      rw [key]
      exact found
    · obtain ⟨held, present, moves, behind, same⟩ := demotions.outdated other member
      rw [inserted] at present
      rw [delta] at behind same
      rcases find?_insert_cases present with ⟨-, rfl⟩ | ⟨-, before⟩
      · rcases moves with live | committed
        · cases live
        · cases committed
      · exact ⟨held, before, moves, behind, same⟩
  · intro success other member held present moves
    by_cases same : other = id
    · exact Or.inr ⟨later, List.mem_cons_self, key.trans same.symm⟩
    · have member : other ∈ rest := by
        rcases List.mem_cons.1 member with here | later
        · exact absurd here same
        · exact later
      have there : next.plans.find? other = some held := by
        rw [inserted, OrdMap.find?_insert_ne _ _ _ _ same]
        exact present
      rcases demotions.complete success other member held there moves with fine | ⟨last, within, named⟩
      · exact Or.inl fine
      · exact Or.inr ⟨last, List.mem_cons_of_mem later within, named⟩

theorem Demotions.nil (engine : Engine storage) :
    Demotions engine [] [] ((.ok (), engine) : Status × Engine storage) := by
  refine ⟨?_, ?_, rfl, fun _ member => absurd member List.not_mem_nil,
    fun _ _ member => absurd member List.not_mem_nil⟩
  · rw [writeAll_nil]
  · rw [writeAll_nil]

/-- A plan that is left alone only has to be accounted for at its own place. -/
theorem Demotions.skip {id : PlanId} {rest : List PlanId} {written : List Plan}
    {result : Status × Engine storage} (demotions : Demotions engine rest written result)
    (agrees : ∀ plan, engine.plans.find? id = some plan → plan.Advancing →
      (engine.deltaOf plan).identical = true) : Demotions engine (id :: rest) written result := by
  refine ⟨demotions.status, demotions.repository, demotions.plans, demotions.outdated, ?_⟩
  intro success other member plan found advancing
  rcases List.mem_cons.1 member with rfl | member
  · exact Or.inl (agrees plan found advancing)
  · exact demotions.complete success other member plan found advancing

/-- The demotion whose append fails is the last. -/
theorem demoted_last {id : PlanId} {rest : List PlanId} {plan : Plan} {reason : Error}
    {repository : Option storage.Repository} (keyed : Keyed engine.plans)
    (found : engine.plans.find? id = some plan) (advancing : plan.Advancing)
    (differs : (engine.deltaOf plan).identical = false)
    (wrote : writeAll engine.repository [outdated plan (engine.deltaOf plan)] =
      (.error reason, repository)) :
    Demotions engine (id :: rest) [outdated plan (engine.deltaOf plan)]
      (.error reason, { engine.countStale with
        plans := storeAll engine.plans [outdated plan (engine.deltaOf plan)]
        repository := repository }) := by
  have key : (outdated plan (engine.deltaOf plan)).id = id := keyed id plan found
  refine ⟨?_, ?_, rfl, ?_, nofun⟩
  · rw [wrote]
  · rw [wrote]
  · intro other member
    rw [List.mem_singleton] at member
    subst member
    refine ⟨plan, ?_, advancing, differs, rfl⟩
    rw [key]
    exact found

theorem demoteOutdated_demotions (ids : List PlanId) (engine : Engine storage)
    (keyed : Keyed engine.plans) :
    ∃ written, Demotions engine ids written (engine.demoteOutdated ids) := by
  induction ids generalizing engine with
  | nil => exact ⟨[], Demotions.nil engine⟩
  | cons id rest ih =>
      rcases demotes_or_skips engine id with ⟨plan, found, advancing, differs⟩ | agrees
      · have same : engine.countStale.repository = engine.repository := rfl
        rw [demoteOutdated_behind rest found advancing differs, record_write, same]
        cases wrote : writeAll engine.repository [outdated plan (engine.deltaOf plan)] with
        | mk status repository =>
            cases status with
            | error reason => exact ⟨_, demoted_last keyed found advancing differs wrote⟩
            | ok => exact demoted_first rest ih keyed found advancing differs wrote
      · obtain ⟨written, demotions⟩ := ih engine keyed
        rw [demoteOutdated_skip rest agrees]
        exact ⟨written, demotions.skip agrees⟩

/-- The calls that write plans, if at all. -/
def Operation.Writing : Operation storage → Prop
  | .attachRepository _ | .detachRepository | .sharedWrite _ | .recoverFromRepository => False
  | _ => True

theorem Operation.Writing.of_target {operation : Operation storage} {id : PlanId}
    (target : operation.target = some id) : operation.Writing := by
  cases operation <;> trivial

/-- What a call writes: a failed append is its answer, and otherwise the plans in memory are those
that were written, unless the call only notes something of a plan. -/
structure Writes (engine : Engine storage) (operation : Operation storage) (written : List Plan)
    (result : Status × Engine storage) : Prop where
  repository : result.2.repository = (writeAll engine.repository written).2
  failed : ∀ reason, (writeAll engine.repository written).1 = .error reason → result.1 = .error reason
  plans : (writeAll engine.repository written).1 = .ok () →
    result.2.plans = storeAll engine.plans written ∨
    written = [] ∧ ∃ id plan next, engine.plans.find? id = some plan ∧ Noted engine plan operation next ∧
      result.2.plans = engine.plans.insert next.id next

theorem Writes.nothing {operation : Operation storage} {answer : Status} :
    Writes engine operation [] (answer, engine) := by
  refine ⟨?_, ?_, fun _ => Or.inl rfl⟩
  · rw [writeAll_nil]
  · intro reason failed
    rw [writeAll_nil] at failed
    cases failed

theorem Writes.record {operation : Operation storage} {counted : Engine storage} {next : Plan}
    {answer : Status} (frame : Counted engine counted) :
    Writes engine operation [next] (counted.record next answer) := by
  rw [record_write, frame.repository, frame.plans]
  refine ⟨rfl, ?_, fun _ => Or.inl rfl⟩
  intro reason failed
  change answerAfter _ answer = .error reason
  rw [failed]
  rfl

theorem Writes.recordBoth {operation : Operation storage} {counted : Engine storage}
    {first second : Plan} {answer : Status} (frame : Counted engine counted) :
    Writes engine operation [first, second] (counted.recordBoth first second answer) := by
  rw [recordBoth_write, frame.repository, frame.plans]
  refine ⟨rfl, ?_, fun _ => Or.inl rfl⟩
  intro reason failed
  change answerAfter _ answer = .error reason
  rw [failed]
  rfl

/-- Every call that can write does it this way. -/
theorem call_writes (keyed : Keyed engine.plans) {operation : Operation storage}
    (writing : operation.Writing) : ∃ written, Writes engine operation written (engine.call operation) := by
  generalize answered : engine.call operation = result
  have effect := call_effect engine operation
  rw [answered] at effect
  cases effect with
  | refused | replayed | deferred => exact ⟨[], Writes.nothing⟩
  | noted target found noted =>
      rename_i id plan next answer
      refine ⟨[], ?_, ?_, ?_⟩
      · rw [writeAll_nil]
        rfl
      · intro reason failed
        rw [writeAll_nil] at failed
        cases failed
      · intro _
        exact Or.inr ⟨rfl, id, plan, next, found, noted, rfl⟩
  | recorded _ _ frame _ _ => exact ⟨_, Writes.record frame⟩
  | displaced _ frame _ _ _ => exact ⟨_, Writes.recordBoth frame⟩
  | superseded _ _ frame _ _ _ => exact ⟨_, Writes.recordBoth frame⟩
  | submitted accepted =>
      rename_i raw
      obtain ⟨written, demotions⟩ :=
        demoteOutdated_demotions engine.plans.keys (engine.withSnapshot (canonicalize raw)) keyed
      refine ⟨written, demotions.repository, ?_, fun _ => Or.inl demotions.plans⟩
      intro reason failed
      rw [demotions.status]
      exact failed
  | undeclared absent failed =>
      rename_i request reason
      rw [persist_write] at failed ⊢
      refine ⟨[engine.declaredPlan request], rfl, ?_, ?_⟩
      · intro other wrote
        change (writeAll engine.repository [engine.declaredPlan request]).1 = _ at failed
        rw [failed] at wrote
        exact wrote
      · intro success
        change (writeAll engine.repository [engine.declaredPlan request]).1 = _ at failed
        rw [failed] at success
        cases success
  | declared live valid absent written =>
      rename_i request
      rw [persist_write] at written ⊢
      refine ⟨[engine.declaredPlan request], rfl, ?_, fun _ => Or.inl rfl⟩
      intro reason failed
      change (writeAll engine.repository [engine.declaredPlan request]).1 = _ at written
      rw [written] at failed
      cases failed
  | attached | detached | shared | recovered => exact writing.elim

end Writing

/-! The answers of the appends. -/

/-- Between the two engines no append has failed. -/
def Clean (before after : Engine durable) : Prop :=
  ∃ answers, after.outcomes = before.outcomes ++ answers ∧ ∀ answer ∈ answers, answer = .ok ()

/-- No append of the call fails. -/
def Unfailing (engine : Engine durable) (operation : Operation durable) : Prop :=
  operation.Writing → Clean engine (engine.apply operation)

/-- The record was made of the plan. -/
def Spells (record : DurableRecord) (plan : Plan) : Prop :=
  Journal.Says record .plan (encodePlan plan) ∧ (encodePlan plan).length ≤ Frame.maxRecordPayload

theorem writeAll_one (journal : Journal) (plan : Plan) :
    writeAll (some journal : Option durable.Repository) [plan] =
      ((journal.append .plan (encodePlan plan)).1, some (journal.append .plan (encodePlan plan)).2) := by
  have appended : durable.append journal .plan (durable.encodePlan plan) =
      journal.append .plan (encodePlan plan) := rfl
  rw [writeAll_cons, appended]
  cases journal.append .plan (encodePlan plan) with
  | mk answer next =>
      cases answer with
      | error reason => rfl
      | ok done => exact writeAll_nil _

theorem writeAll_answers (journal : Journal) (written : List Plan) :
    ∃ answers next, (writeAll (some journal : Option durable.Repository) written).2 = some next ∧
      Journal.outcomes next = journal.outcomes ++ answers ∧
      ((∀ answer ∈ answers, answer = .ok ()) ↔
        (writeAll (some journal : Option durable.Repository) written).1 = .ok ()) ∧
      ∀ reason, (writeAll (some journal : Option durable.Repository) written).1 = .error reason →
        .error reason ∈ answers := by
  induction written generalizing journal with
  | nil =>
      refine ⟨[], journal, ?_, (List.append_nil _).symm, ?_, ?_⟩
      · rw [writeAll_nil]
      · rw [writeAll_nil]
        exact ⟨fun _ => rfl, fun _ _ member => absurd member List.not_mem_nil⟩
      · intro reason failed
        rw [writeAll_nil] at failed
        cases failed
  | cons plan rest ih =>
      have appended : durable.append journal .plan (durable.encodePlan plan) =
          journal.append .plan (encodePlan plan) := rfl
      rw [writeAll_cons, appended]
      have outcomes : (journal.append .plan (encodePlan plan)).2.outcomes =
          journal.outcomes ++ [(journal.append .plan (encodePlan plan)).1] := rfl
      cases answered : journal.append .plan (encodePlan plan) with
      | mk answer next =>
          rw [answered] at outcomes
          cases answer with
          | error reason =>
              refine ⟨[.error reason], next, rfl, outcomes, ⟨?_, nofun⟩, ?_⟩
              · intro fine
                exact absurd (fine _ List.mem_cons_self) nofun
              · intro other failed
                rw [← Except.error.inj failed]
                exact List.mem_cons_self
          | ok done =>
              obtain ⟨answers, last, found, grown, success, failure⟩ := ih next
              refine ⟨.ok () :: answers, last, found, ?_, ?_, ?_⟩
              · rw [grown, outcomes, List.append_assoc]
                rfl
              · rw [List.forall_mem_cons]
                exact ⟨fun fine => success.1 fine.2, fun fine => ⟨rfl, success.2 fine⟩⟩
              · intro reason failed
                exact List.mem_cons_of_mem _ (failure reason failed)

theorem outcomes_some {engine : Engine durable} {journal : Journal}
    (attached : engine.repository = some journal) : engine.outcomes = journal.outcomes := by
  unfold outcomes
  rw [attached]

theorem outcomes_none {engine : Engine durable} (detached : engine.repository = none) :
    engine.outcomes = [] := by
  unfold outcomes
  rw [detached]

theorem log_some {engine : Engine durable} {journal : Journal}
    (attached : engine.repository = some journal) : engine.log = journal.repository.records := by
  unfold log
  rw [attached]

section Answers

variable {engine : Engine durable} {operation : Operation durable} {written : List Plan}
  {result : Status × Engine durable}

/-- The answers of the appends of a call. -/
theorem Writes.answers (writes : Writes engine operation written result) :
    ∃ answers, result.2.outcomes = engine.outcomes ++ answers ∧
      ((∀ answer ∈ answers, answer = .ok ()) ↔ (writeAll engine.repository written).1 = .ok ()) ∧
      ∀ reason, (writeAll engine.repository written).1 = .error reason → .error reason ∈ answers := by
  have repository := writes.repository
  cases attached : engine.repository with
  | none =>
      rw [attached, writeAll_none] at repository
      rw [writeAll_none, outcomes_none repository, outcomes_none attached]
      exact ⟨[], rfl, ⟨fun _ => rfl, fun _ _ member => absurd member List.not_mem_nil⟩, nofun⟩
  | some journal =>
      obtain ⟨answers, next, found, grown, success, failure⟩ := writeAll_answers journal written
      rw [attached, found] at repository
      refine ⟨answers, ?_, success, failure⟩
      rw [outcomes_some repository, outcomes_some attached, grown]

theorem Writes.clean_iff (writes : Writes engine operation written result) :
    Clean engine result.2 ↔ (writeAll engine.repository written).1 = .ok () := by
  obtain ⟨answers, grown, success, -⟩ := writes.answers
  rw [← success]
  refine ⟨?_, fun fine => ⟨answers, grown, fine⟩⟩
  rintro ⟨others, same, fine⟩
  rw [grown, List.append_cancel_left_eq] at same
  rw [same]
  exact fine

/-- A call without a failed append: what is then in the log and in memory. -/
theorem Writes.settled (writes : Writes engine operation written result) (clean : Clean engine result.2) :
    result.2.plans = storeAll engine.plans written ∨
    written = [] ∧ ∃ id plan next, engine.plans.find? id = some plan ∧ Noted engine plan operation next ∧
      result.2.plans = engine.plans.insert next.id next :=
  writes.plans (writes.clean_iff.1 clean)

end Answers

/-- The records of the plans are added in their order. -/
theorem writeAll_records (journal : Journal) (written : List Plan)
    (success : (writeAll (some journal : Option durable.Repository) written).1 = .ok ()) :
    ∃ records next, (writeAll (some journal : Option durable.Repository) written).2 = some next ∧
      PlanRepository.records (Journal.repository next) = journal.repository.records ++ records ∧
      List.Forall₂ Spells records written := by
  induction written generalizing journal with
  | nil =>
      refine ⟨[], journal, ?_, (List.append_nil _).symm, List.Forall₂.nil⟩
      rw [writeAll_nil]
  | cons plan rest ih =>
      have appended : durable.append journal .plan (durable.encodePlan plan) =
          journal.append .plan (encodePlan plan) := rfl
      rw [writeAll_cons, appended] at success ⊢
      have spelled := journal.append_ok .plan (encodePlan plan)
      cases answered : journal.append .plan (encodePlan plan) with
      | mk answer next =>
          rw [answered] at success spelled
          cases answer with
          | error reason => cases success
          | ok done =>
              obtain ⟨record, made, bounded, grown⟩ := spelled rfl
              obtain ⟨records, last, found, more, spells⟩ := ih next success
              refine ⟨record :: records, last, found, ?_, List.Forall₂.cons ⟨made, bounded⟩ spells⟩
              rw [more, grown, List.append_assoc]
              rfl

/-- Whatever fails, records are only added. -/
theorem writeAll_grows (journal : Journal) (written : List Plan) :
    ∃ records next, (writeAll (some journal : Option durable.Repository) written).2 = some next ∧
      PlanRepository.records (Journal.repository next) = journal.repository.records ++ records := by
  induction written generalizing journal with
  | nil =>
      refine ⟨[], journal, ?_, (List.append_nil _).symm⟩
      rw [writeAll_nil]
  | cons plan rest ih =>
      have appended : durable.append journal .plan (durable.encodePlan plan) =
          journal.append .plan (encodePlan plan) := rfl
      rw [writeAll_cons, appended]
      obtain ⟨first, grown, -⟩ := journal.append_grows .plan (encodePlan plan)
      cases answered : journal.append .plan (encodePlan plan) with
      | mk answer next =>
          rw [answered] at grown
          cases answer with
          | error reason => exact ⟨first, next, rfl, grown⟩
          | ok done =>
              obtain ⟨records, last, found, more⟩ := ih next
              refine ⟨first ++ records, last, found, ?_⟩
              rw [more, grown, List.append_assoc]

theorem forall₂_mem {records : List DurableRecord} {written : List Plan}
    (spells : List.Forall₂ Spells records written) {plan : Plan} (member : plan ∈ written) :
    ∃ record ∈ records, Spells record plan := by
  induction spells with
  | nil => cases member
  | cons spelled rest ih =>
      rcases List.mem_cons.1 member with rfl | member
      · exact ⟨_, List.mem_cons_self, spelled⟩
      · obtain ⟨record, within, spelled⟩ := ih member
        exact ⟨record, List.mem_cons_of_mem _ within, spelled⟩

/-- What is found after a call without a failed append has a record of its own, is as it was, or is
only noted. -/
theorem Writes.spelled {engine : Engine durable} {operation : Operation durable} {written : List Plan}
    {result : Status × Engine durable} (writes : Writes engine operation written result)
    (clean : Clean engine result.2) (attached : engine.repository ≠ none) {id : PlanId} {later : Plan}
    (found : result.2.plans.find? id = some later) :
    (∃ record ∈ result.2.log, Spells record later) ∧ later.id = id ∨ engine.plans.find? id = some later ∨
      ∃ plan, Noted engine plan operation later := by
  rcases writes.settled clean with stored | ⟨-, at_, plan, next, -, noted, stored⟩
  · rw [stored] at found
    rcases find?_storeAll found with ⟨member, key⟩ | ⟨before, -⟩
    · obtain ⟨journal, present⟩ := Option.ne_none_iff_exists'.1 attached
      have success := writes.clean_iff.1 clean
      have repository := writes.repository
      rw [present] at success repository
      obtain ⟨records, next, last, grown, spells⟩ := writeAll_records journal written success
      rw [last] at repository
      obtain ⟨record, within, spelled⟩ := forall₂_mem spells member
      refine Or.inl ⟨⟨record, ?_, spelled⟩, key⟩
      rw [log_some repository, grown]
      exact List.mem_append_right _ within
    · exact Or.inr (Or.inl before)
  · rw [stored] at found
    rcases find?_insert_cases found with ⟨-, rfl⟩ | ⟨-, before⟩
    · exact Or.inr (Or.inr ⟨plan, noted⟩)
    · exact Or.inr (Or.inl before)

/-- The records of an attached repository are never taken away by a call of the engine, and a
repository is only attached where there is no plan. -/
theorem call_grows {engine : Engine durable} (keyed : Keyed engine.plans) {operation : Operation durable}
    (shared : ∀ journal, operation = .sharedWrite journal →
      engine.log <+: PlanRepository.records (Journal.repository journal))
    (attached : (engine.call operation).2.repository ≠ none) :
    engine.repository ≠ none ∧ engine.log <+: (engine.call operation).2.log ∨ engine.plans.size = 0 := by
  have writing : operation.Writing →
      engine.repository ≠ none ∧ engine.log <+: (engine.call operation).2.log := by
    intro writing
    obtain ⟨written, writes⟩ := call_writes keyed writing
    have repository := writes.repository
    cases present : engine.repository with
    | none =>
        rw [present, writeAll_none] at repository
        exact absurd repository attached
    | some journal =>
        obtain ⟨records, next, last, grown⟩ := writeAll_grows journal written
        rw [present, last] at repository
        refine ⟨Option.some_ne_none journal, records, ?_⟩
        rw [log_some repository, log_some present, grown]
  generalize answered : engine.call operation = result at attached writing
  have effect := call_effect engine operation
  rw [answered] at effect
  cases effect with
  | refused => exact Or.inl ⟨attached, List.prefix_rfl⟩
  | attached free empty => exact Or.inr empty
  | detached => exact absurd rfl attached
  | shared =>
      rename_i journal
      cases present : engine.repository with
      | none =>
          refine absurd ?_ attached
          change engine.repository.map _ = none
          rw [present]
          rfl
      | some current =>
          refine Or.inl ⟨Option.some_ne_none current, ?_⟩
          exact shared journal rfl
  | recovered => exact Or.inl ⟨attached, List.prefix_rfl⟩
  | noted target | recorded target => exact Or.inl (writing (Operation.Writing.of_target target))
  | replayed | deferred | displaced | superseded | submitted | undeclared | declared =>
      exact Or.inl (writing trivial)

end Engine

end TrafficFabric
