import TrafficFabric.Lifetimes
import TrafficFabric.Restarts

set_option autoImplicit false

/- What a commit has settled. A plan that is no longer live keeps the commit it was made for, and is not
committed again; the log of a directory says the same of it as memory does. -/
namespace TrafficFabric

open PlanStateMachine (isLive canTransition)

/-- A plan, and the commit that was asked for it. -/
@[ext] structure Settlement where
  plan : PlanRef
  commit : CommitId
  commitGeneration : Gen .commit

def Plan.settlement (plan : Plan) : Settlement where
  plan := plan.ref
  commit := plan.commit
  commitGeneration := if plan.commit.valid then plan.commitGeneration else default

namespace Engine

/-- What is left of a plan that was not live. -/
structure Abides (plan later : Plan) : Prop where
  idle : isLive later.state = false
  settlement : later.settlement = plan.settlement
  committed : later.state = .committed → plan.state = .committed

theorem Abides.refl {plan : Plan} (idle : isLive plan.state = false) : Abides plan plan := ⟨idle, rfl, id⟩

theorem Abides.trans {plan next last : Plan} (before : Abides plan next) (after : Abides next last) :
    Abides plan last :=
  ⟨after.idle, after.settlement.trans before.settlement,
    fun committed => before.committed (after.committed committed)⟩

/-- What recovery makes of a plan has the commit of the plan. -/
theorem restored_settlement (plan : Plan) :
    (restored plan.durable).settlement = plan.settlement ∧ isLive (restored plan.durable).state = false ∧
      ((restored plan.durable).state = .committed ↔ plan.state = .committed) := by
  have content := (restores_restored plan).content
  have state : (restored plan.durable).state = settled plan.state := congrArg Plan.state content
  refine ⟨?_, by rw [state, settled_idle], by rw [state, settled_committed]⟩
  rw [content]
  unfold Plan.settlement
  change Settlement.mk _ _ (if plan.commit.valid then if plan.commit.valid then
    plan.commitGeneration else default
    else default) = _
  split <;> rfl

section Calls

variable {storage : Storage} {engine : Engine storage}

theorem PlanStep.abides {operation : Operation storage} {id : PlanId} {plan later : Plan}
    (step : PlanStep engine operation id plan later) (idle : isLive plan.state = false) :
    Abides plan later := by
  have live : ∀ {state : PlanState}, plan.state = state → isLive state = true → False := by
    rintro state rfl alive
    rw [idle] at alive
    cases alive
  cases step with
  | kept => exact .refl idle
  | noted _ noted =>
      cases noted with
      | current | behind => exact ⟨idle, rfl, fun committed => committed⟩
      | unfounded declared => exact (live declared rfl).elim
  | recorded _ change =>
      cases change with
      | validated declared => exact (live declared rfl).elim
      | outdated | marked | retired => exact ⟨rfl, rfl, nofun⟩
      | contradicted advancing => exact (live rfl advancing).elim
      | unsolvable solves | solved solves => exact (live solves.validated rfl).elim
      | forbidden degraded => exact (live degraded rfl).elim
      | authorized authorizes =>
          rcases authorizes.proposed with proposed | degraded
          · exact (live proposed rfl).elim
          · exact (live degraded rfl).elim
      | unverified authorized => exact (live authorized rfl).elim
      | committed commits => exact (live commits.authorized rfl).elim
  | displacing commits => exact (live commits.authorized rfl).elim
  | displaced | superseded => exact ⟨rfl, rfl, nofun⟩
  | superseding committed => exact ⟨idle, rfl, fun committed => committed⟩
  | demoted => exact ⟨rfl, rfl, nofun⟩

theorem call_abides (keyed : Keyed engine.plans) (operation : Operation storage) {id : PlanId} {plan : Plan}
    (found : engine.plans.find? id = some plan) (idle : isLive plan.state = false) :
    ∃ later, (engine.call operation).2.plans.find? id = some later ∧ Abides plan later := by
  obtain ⟨later, present, -⟩ := (apply_advances keyed operation).kept id plan found
  rw [apply_eq_call] at present
  rcases call_plan keyed present with ⟨before, there, step⟩ | ⟨absent, -⟩
  · rw [found, Option.some.injEq] at there
    subst there
    exact ⟨later, present, step.abides idle⟩
  · rw [found] at absent
    cases absent

/-- Whatever the engine is called for, a plan that is not live stays so, with its commit. -/
theorem run_abides (steady : engine.Steady) (history : List (Operation storage)) {id : PlanId} {plan : Plan}
    (found : engine.plans.find? id = some plan) (idle : isLive plan.state = false) :
    ∃ later, (engine.run history).plans.find? id = some later ∧ Abides plan later := by
  induction history generalizing engine plan with
  | nil => exact ⟨plan, found, .refl idle⟩
  | cons operation rest ih =>
      obtain ⟨next, present, first⟩ := call_abides steady.sound.keyed operation found idle
      rw [← apply_eq_call] at present
      obtain ⟨last, there, second⟩ := ih (apply_steady steady operation) present first.idle
      exact ⟨last, there, first.trans second⟩

/-! What a call writes, next to what it stores. -/

/-- The plans in memory after a call that writes these plans. -/
inductive Stores (engine : Engine storage) (operation : Operation storage) (written : List Plan) :
    OrdMap PlanId Plan → Prop
  | all (single : ∀ first ∈ written, ∀ second ∈ written, first.id = second.id → first = second)
      (sure : ∀ plan ∈ written, engine.plans.find? plan.id = none →
        (writeAll engine.repository written).1 = .ok ()) :
      Stores engine operation written (storeAll engine.plans written)
  | noted {id : PlanId} {plan next : Plan} (nothing : written = [])
      (found : engine.plans.find? id = some plan)
      (noted : Noted engine plan operation next) :
      Stores engine operation written (engine.plans.insert next.id next)
  | refused {plan : Plan} {reason : Error} (one : written = [plan])
      (absent : engine.plans.find? plan.id = none)
      (failed : (writeAll engine.repository written).1 = .error reason) :
      Stores engine operation written engine.plans

theorem single_one (plan : Plan) :
    ∀ first ∈ [plan], ∀ second ∈ [plan], first.id = second.id → first = second := by
  simp

theorem single_two {left right : Plan} (apart : left.id ≠ right.id) :
    ∀ first ∈ [left, right], ∀ second ∈ [left, right], first.id = second.id → first = second := by
  simp [apart, Ne.symm apart]

theorem both_held {left right : Plan} {holds : Prop} (first : engine.plans.find? left.id ≠ none)
    (second : engine.plans.find? right.id ≠ none) :
    ∀ plan ∈ [left, right], engine.plans.find? plan.id = none → holds := by
  intro plan member absent
  simp only [List.mem_cons, List.not_mem_nil, or_false] at member
  rcases member with rfl | rfl
  · exact absurd absent first
  · exact absurd absent second

theorem call_stores (keyed : Keyed engine.plans) {operation : Operation storage}
    (writing : operation.Writing) :
    ∃ written, Writes engine operation written (engine.call operation) ∧
      Stores engine operation written (engine.call operation).2.plans := by
  generalize answered : engine.call operation = result
  have effect := call_effect engine operation
  rw [answered] at effect
  cases effect with
  | refused | replayed | deferred =>
      exact ⟨[], Writes.nothing, .all (fun _ member => absurd member List.not_mem_nil)
        fun _ member => absurd member List.not_mem_nil⟩
  | noted target found noted =>
      refine ⟨[], ⟨by rw [writeAll_nil]; rfl, ?_, fun _ => .inr ⟨rfl, _, _, _, found, noted, rfl⟩⟩,
        .noted rfl found noted⟩
      intro reason failed
      rw [writeAll_nil] at failed
      cases failed
  | @recorded _ id plan next counted answer target found frame change honest =>
      refine ⟨[next], Writes.record frame, ?_⟩
      rw [record_write, frame.plans]
      refine .all (single_one next) fun other member absent => ?_
      rw [List.mem_singleton.1 member, change.binding.id, keyed id plan found, found] at absent
      cases absent
  | @displaced ref intent plan previous counted found frame commits displaces =>
      obtain ⟨differs, there, -⟩ := supersededByCommit_eq displaces
      refine ⟨_, Writes.recordBoth frame, ?_⟩
      rw [recordBoth_write, frame.plans]
      have key := keyed _ previous there
      refine .all (single_two ?_) (both_held ?_ ?_)
      · change previous.id ≠ plan.id
        rw [key]
        exact differs
      · change engine.plans.find? previous.id ≠ none
        rw [key, there]
        exact Option.some_ne_none previous
      · change engine.plans.find? plan.id ≠ none
        rw [keyed _ plan found, found]
        exact Option.some_ne_none plan
  | @superseded first second incumbent replacement counted found present frame same committed different =>
      refine ⟨_, Writes.recordBoth frame, ?_⟩
      rw [recordBoth_write, frame.plans]
      refine .all (single_two different) (both_held ?_ ?_)
      · change engine.plans.find? incumbent.id ≠ none
        rw [keyed _ incumbent found, found]
        exact Option.some_ne_none incumbent
      · change engine.plans.find? replacement.id ≠ none
        rw [keyed _ replacement present, present]
        exact Option.some_ne_none replacement
  | @submitted raw accepted =>
      obtain ⟨written, demotions⟩ :=
        demoteOutdated_demotions engine.plans.keys (engine.withSnapshot (canonicalize raw)) keyed
      refine ⟨written, ⟨demotions.repository, ?_, fun _ => .inl demotions.plans⟩, ?_⟩
      · intro reason failed
        rw [demotions.status]
        exact failed
      rw [demotions.plans]
      refine .all ?_ ?_
      · intro first member second other same
        obtain ⟨plan, found, -, -, made⟩ := demotions.outdated first member
        obtain ⟨again, present, -, -, rfl⟩ := demotions.outdated second other
        rw [same, present, Option.some.injEq] at found
        rw [made, found]
      · intro later member absent
        obtain ⟨plan, found, -⟩ := demotions.outdated later member
        cases absent.symm.trans found
  | @undeclared request reason absent failed =>
      rw [persist_write] at failed ⊢
      refine ⟨[engine.declaredPlan request], ⟨rfl, ?_, ?_⟩, .refused rfl absent failed⟩
      · intro other wrote
        exact failed.symm.trans wrote
      · intro success
        cases failed.symm.trans success
  | @declared request live valid absent written =>
      rw [persist_write] at written ⊢
      refine ⟨[engine.declaredPlan request], ⟨rfl, ?_, fun _ => .inl rfl⟩,
        .all (single_one _) fun _ _ _ => written⟩
      intro reason failed
      cases failed.symm.trans written
  | attached | detached | shared | recovered => exact writing.elim

theorem storeAll_cases (plans : OrdMap PlanId Plan) (written : List Plan) (id : PlanId) :
    (∃ plan ∈ written, plan.id = id ∧ (storeAll plans written).find? id = some plan) ∨
      (∀ plan ∈ written, plan.id ≠ id) ∧ (storeAll plans written).find? id = plans.find? id := by
  induction written generalizing plans with
  | nil => exact .inr ⟨fun _ member => absurd member List.not_mem_nil, rfl⟩
  | cons plan rest ih =>
      rcases ih (plans.insert plan.id plan) with ⟨last, member, key, found⟩ | ⟨others, found⟩
      · exact .inl ⟨last, List.mem_cons_of_mem plan member, key, found⟩
      rw [OrdMap.find?_insert] at found
      by_cases here : id = plan.id
      · rw [if_pos here] at found
        exact .inl ⟨plan, List.mem_cons_self, here.symm, found⟩
      · rw [if_neg here] at found
        refine .inr ⟨fun other member => ?_, found⟩
        rcases List.mem_cons.1 member with rfl | member
        · exact Ne.symm here
        · exact others other member

end Calls

/-! The log, read next to memory. -/

theorem recoveredPlans_cases (log : List DurableRecord) {records : List DurableRecord} {written : List Plan}
    (spells : List.Forall₂ Spells records written) (decodes : Decodes records) (id : PlanId) :
    (∃ plan ∈ written, plan.id = id ∧
        (recoveredPlans (log ++ records)).find? id = some (restored plan.durable)) ∨
      (∀ plan ∈ written, plan.id ≠ id) ∧
        (recoveredPlans (log ++ records)).find? id = (recoveredPlans log).find? id := by
  induction spells generalizing log with
  | nil => exact .inr ⟨fun _ member => absurd member List.not_mem_nil, by rw [List.append_nil]⟩
  | @cons record plan rest later spelled _ ih =>
      have whole : log ++ record :: rest = log ++ [record] ++ rest := by simp
      rw [whole]
      rcases ih (log ++ [record]) fun other member =>
        decodes other (List.mem_cons_of_mem record member) with
        ⟨last, member, key, found⟩ | ⟨others, found⟩
      · exact .inl ⟨last, List.mem_cons_of_mem plan member, key, found⟩
      rw [recoveredPlans_plan log spelled (decodes record List.mem_cons_self spelled.1.1)] at found
      by_cases here : id = plan.id
      · rw [if_pos here] at found
        exact .inl ⟨plan, List.mem_cons_self, here.symm, found⟩
      · rw [if_neg here] at found
        refine .inr ⟨fun other member => ?_, found⟩
        rcases List.mem_cons.1 member with rfl | member
        · exact Ne.symm here
        · exact others other member

/-- Every plan in memory is in the log, the two related so, and no other is. -/
def Tracks (related : PlanId → Plan → Plan → Prop) (plans : OrdMap PlanId Plan)
    (log : List DurableRecord) : Prop :=
  ∀ id, Option.Rel (related id) (plans.find? id) ((recoveredPlans log).find? id)

/-- What relates a plan to its record still does so when a call changes the plan, writes it, or makes it. -/
structure Survives {storage : Storage} (related : PlanId → Plan → Plan → Prop) (engine : Engine storage)
    (operation : Operation storage) : Prop where
  changed : ∀ id plan later read, related id plan read → PlanStep engine operation id plan later →
    related id later read
  written : ∀ id plan later read, related id plan read → PlanStep engine operation id plan later →
    related id later (restored later.durable)
  made : ∀ id plan, engine.plans.find? id = none → PlanNew engine operation id plan →
    related id plan (restored plan.durable)

section Tracking

variable {storage : Storage} {related : PlanId → Plan → Plan → Prop} {engine : Engine storage}
  {operation : Operation storage} {log records : List DurableRecord} {part written : List Plan}

theorem Tracks.read (tracks : Tracks related engine.plans log) {id : PlanId} {plan : Plan}
    (found : engine.plans.find? id = some plan) :
    ∃ read, (recoveredPlans log).find? id = some read ∧ related id plan read := by
  have both := tracks id
  rw [found] at both
  cases there : (recoveredPlans log).find? id with
  | none =>
      rw [there] at both
      cases both
  | some read =>
      rw [there] at both
      cases both with
      | some holds => exact ⟨read, rfl, holds⟩

/-- The plans that a call writes come from the plans of the same identities. -/
theorem Stores.step (keyed : Keyed engine.plans)
    (stores : Stores engine operation written (engine.call operation).2.plans) {later : Plan}
    (member : later ∈ written) (held : engine.plans.find? later.id ≠ none) :
    ∃ plan, engine.plans.find? later.id = some plan ∧ PlanStep engine operation later.id plan later := by
  have present : ∀ {plans : OrdMap PlanId Plan}, Stores engine operation written plans →
      plans.find? later.id = some later := by
    intro plans stores
    cases stores with
    | all single =>
        obtain ⟨last, within, key, found⟩ := storeAll_find? engine.plans member
        rw [single last within later member key] at found
        exact found
    | noted nothing =>
        rw [nothing] at member
        exact absurd member List.not_mem_nil
    | refused one absent =>
        rw [one, List.mem_singleton] at member
        rw [member] at held
        exact absurd absent held
  rcases call_plan keyed (present stores) with step | ⟨absent, -⟩
  · exact step
  · exact absurd absent held

/-- A plan that was held is read as it was, or as the call has made it. -/
theorem Tracks.cut (tracks : Tracks related engine.plans log) (keyed : Keyed engine.plans)
    (survives : Survives related engine operation)
    (stores : Stores engine operation written (engine.call operation).2.plans) (within : part ⊆ written)
    (spells : List.Forall₂ Spells records part) (decodes : Decodes records) {id : PlanId} {plan : Plan}
    (found : engine.plans.find? id = some plan) :
    ∃ later read, PlanStep engine operation id plan later ∧
      (recoveredPlans (log ++ records)).find? id = some read ∧ related id later read := by
  obtain ⟨read, there, holds⟩ := tracks.read found
  rcases recoveredPlans_cases log spells decodes id with ⟨later, member, rfl, now⟩ | ⟨-, now⟩
  · obtain ⟨before, same, step⟩ :=
      stores.step keyed (within member) (by rw [found]; exact Option.some_ne_none plan)
    rw [found, Option.some.injEq] at same
    subst same
    exact ⟨later, _, step, now, survives.written _ _ _ _ holds step⟩
  · exact ⟨plan, read, .kept, now.trans there, holds⟩

/-- The appends of a call up to the first that fails. -/
theorem Tracks.call (tracks : Tracks related engine.plans log) (keyed : Keyed engine.plans)
    (survives : Survives related engine operation)
    (stores : Stores engine operation written (engine.call operation).2.plans) (within : part <+: written)
    (whole : part = written ↔ (writeAll engine.repository written).1 = .ok ())
    (spells : List.Forall₂ Spells records part) (decodes : Decodes records) :
    Tracks related (engine.call operation).2.plans (log ++ records) := by
  have origin : ∀ {id later}, (engine.call operation).2.plans.find? id = some later →
      ComesFrom engine operation id later := call_plan keyed
  generalize (engine.call operation).2.plans = plans at stores origin ⊢
  intro id
  cases stores with
  | all single sure =>
      rcases storeAll_cases engine.plans written id with ⟨later, member, rfl, now⟩ | ⟨others, now⟩
      · have comes := origin now
        rw [now]
        rcases recoveredPlans_cases log spells decodes later.id with
          ⟨other, within', key, read⟩ | ⟨missing, read⟩
        · obtain rfl := single other (within.subset within') later member key
          rw [read]
          rcases comes with ⟨plan, found, step⟩ | ⟨absent, new⟩
          · obtain ⟨_, -, holds⟩ := tracks.read found
            exact .some (survives.written _ _ _ _ holds step)
          · exact .some (survives.made _ _ absent new)
        · rw [read]
          rcases comes with ⟨plan, found, step⟩ | ⟨absent, new⟩
          · obtain ⟨_, there, holds⟩ := tracks.read found
            rw [there]
            exact .some (survives.changed _ _ _ _ holds step)
          · rw [whole.2 (sure later member absent)] at missing
            exact absurd rfl (missing later member)
      · rw [now]
        rcases recoveredPlans_cases log spells decodes id with ⟨other, within', key, -⟩ | ⟨-, read⟩
        · exact absurd key (others other (within.subset within'))
        · rw [read]
          exact tracks id
  | @noted held plan next nothing found noted =>
      rw [nothing, List.prefix_nil] at within
      subst within
      cases spells
      rw [List.append_nil]
      by_cases here : id = next.id
      · subst here
        have now := OrdMap.find?_insert_self engine.plans next.id next
        rcases origin now with ⟨before, there, step⟩ | ⟨absent, -⟩
        · obtain ⟨read, logged, holds⟩ := tracks.read there
          rw [now, logged]
          exact .some (survives.changed _ _ _ _ holds step)
        · rw [noted.binding.id, keyed held plan found, found] at absent
          cases absent
      · rw [OrdMap.find?_insert, if_neg here]
        exact tracks id
  | refused one absent failed =>
      have short : part ≠ written := by
        intro same
        rw [whole.1 same] at failed
        cases failed
      rw [one] at within short
      rcases List.prefix_cons_iff.1 within with rfl | ⟨rest, rfl, last⟩
      swap
      · rw [List.prefix_nil.1 last] at short
        exact absurd rfl short
      cases spells
      rw [List.append_nil]
      exact tracks id

end Tracking

/-! The appends of a directory. -/

/-- An append that is refused leaves what is acknowledged as it is. -/
theorem acknowledged_refused {session : Session} {type : RecordType} {payload : List UInt8} {reason : Error}
    (refused : session.answers type payload = .error reason) :
    (session.call (.append type payload)).acknowledged = session.acknowledged := by
  unfold Session.answers at refused
  unfold Session.call
  split at refused
  · simp_all
  · simp_all

theorem append_inFlight (session : Session) (type : RecordType) (payload : List UInt8) :
    (session.call (.append type payload)).inFlight = session.inFlight := by
  unfold Session.call
  cases session.repository <;> rfl

theorem answers_bounded {session : Session} {type : RecordType} {payload : List UInt8}
    (success : session.answers type payload = .ok ()) : payload.length ≤ Frame.maxRecordPayload := by
  unfold Session.answers at success
  split at success
  · cases success
  rename_i repository _
  have appended := @PlanRepository.append_cases repository {} type payload
  generalize repository.append {} type payload = call at success appended
  cases appended with
  | refused | torn | unflushed | passed => cases success
  | taken _ _ bounded | compacted _ _ bounded => exact bounded

/-- An append of a plan that succeeds adds a record of it. -/
theorem acknowledged_spells {session : Session} {plan : Plan}
    (success : session.answers .plan (encodePlan plan) = .ok ()) :
    ∃ record, Spells record plan ∧
      (session.call (.append .plan (encodePlan plan))).acknowledged = session.acknowledged ++ [record] := by
  obtain ⟨record, made, acknowledged⟩ := Session.append_acknowledged success
  exact ⟨record, ⟨made, answers_bounded success⟩, acknowledged⟩

/-- The record in flight is one of the plan. -/
theorem writes_spells {session : Session} {plan : Plan}
    (success : session.answers .plan (encodePlan plan) = .ok ())
    {record : DurableRecord} (written : session.writes (.append .plan (encodePlan plan)) = some record) :
    Spells record plan := by
  have bounded := answers_bounded success
  cases up : session.repository with
  | none =>
      unfold Session.answers at success
      rw [up] at success
      cases success
  | some repository =>
      simp only [Session.writes, up, Option.some.injEq] at written
      rw [← written]
      exact ⟨⟨rfl, rfl⟩, bounded⟩

/-- The plans up to the first whose append fails are acknowledged. -/
theorem writeAll_acknowledged (session : Session) (written : List Plan) :
    ∃ (part : List Plan) (records : List DurableRecord) (later : Session),
      (writeAll (some session : Option onDisk.Repository) written).2 = some later ∧ part <+: written ∧
      (part = written ↔ (writeAll (some session : Option onDisk.Repository) written).1 = .ok ()) ∧
      later.acknowledged = session.acknowledged ++ records ∧ List.Forall₂ Spells records part ∧
      later.inFlight = session.inFlight := by
  induction written generalizing session with
  | nil =>
      rw [writeAll_nil]
      exact ⟨[], [], session, rfl, List.prefix_rfl, by simp, by simp, .nil, rfl⟩
  | cons plan rest ih =>
      let next := session.call (.append .plan (encodePlan plan))
      have appended : onDisk.append session .plan (onDisk.encodePlan plan) =
          (session.answers .plan (encodePlan plan), next) := rfl
      rw [writeAll_cons, appended]
      cases answered : session.answers .plan (encodePlan plan) with
      | error reason =>
          refine ⟨[], [], next, rfl, List.nil_prefix, by simp, ?_, .nil, append_inFlight _ _ _⟩
          rw [acknowledged_refused answered, List.append_nil]
      | ok =>
          obtain ⟨record, spelled, first⟩ := acknowledged_spells answered
          obtain ⟨part, records, later, found, within, whole, logged, spells, quiet⟩ := ih next
          refine ⟨plan :: part, record :: records, later, found, ?_, ?_, ?_, .cons spelled spells,
            quiet.trans (append_inFlight _ _ _)⟩
          · exact List.cons_prefix_cons.2 ⟨rfl, within⟩
          · rw [List.cons_inj_right]
            exact whole
          · rw [logged, first]
            simp

/-! What a log says of a plan, from one time on. -/

/-- Where the log has the plan committed, memory has that commit, and a plan that was idle from the
beginning was committed so then. -/
structure Attests (origin : OrdMap PlanId Plan) (id : PlanId) (plan read : Plan) : Prop where
  settled : read.state = .committed → isLive plan.state = false ∧ read.settlement = plan.settlement
  origin : ∀ first, origin.find? id = some first →
    Abides first plan ∧
      (read.state = .committed → first.state = .committed ∧ read.settlement = first.settlement)

/-- The plans of the beginning are still held. -/
def Holding (origin plans : OrdMap PlanId Plan) :
    Prop := ∀ id, plans.find? id = none → origin.find? id = none

theorem attests_survives {storage : Storage} {origin : OrdMap PlanId Plan} {engine : Engine storage}
    (holding : Holding origin engine.plans) (operation : Operation storage) :
    Survives (Attests origin) engine operation where
  changed id plan later read attests step := by
    refine ⟨fun committed => ?_, fun first found => ?_⟩
    · obtain ⟨idle, same⟩ := attests.settled committed
      have abides := step.abides idle
      exact ⟨abides.idle, same.trans abides.settlement.symm⟩
    · obtain ⟨abides, logged⟩ := attests.origin first found
      exact ⟨abides.trans (step.abides abides.idle), logged⟩
  written id plan later read attests step := by
    obtain ⟨same, -, state⟩ := restored_settlement later
    refine ⟨fun committed => ?_, fun first found => ?_⟩
    · rw [state.1 committed]
      exact ⟨rfl, same⟩
    · obtain ⟨abides, -⟩ := attests.origin first found
      have still := abides.trans (step.abides abides.idle)
      exact ⟨still, fun committed => ⟨still.committed (state.1 committed), same.trans still.settlement⟩⟩
  made id plan absent new := by
    have vacant := holding id absent
    refine ⟨fun committed => ?_, fun first found => ?_⟩
    · obtain ⟨same, -, state⟩ := restored_settlement plan
      rw [state.1 committed]
      exact ⟨rfl, same⟩
    · rw [vacant] at found
      cases found

theorem recoveredPlans_idle {log : List DurableRecord} {id : PlanId} {plan : Plan}
    (found : (recoveredPlans log).find? id = some plan) : isLive plan.state = false := by
  unfold recoveredPlans at found
  rw [OrdMap.find?_mapValues, Option.map_eq_some_iff] at found
  obtain ⟨recorded, -, rfl⟩ := found
  exact restored_idle recorded

/-- Plans that are idle attest to themselves. -/
theorem attests_self {plans : OrdMap PlanId Plan} {log : List DurableRecord}
    (same : plans = recoveredPlans log) :
    Tracks (Attests plans) plans log := by
  intro id
  rw [← same]
  cases found : plans.find? id with
  | none => exact .none
  | some plan =>
      have idle : isLive plan.state = false := by
        rw [same] at found
        exact recoveredPlans_idle found
      refine .some ⟨fun _ => ⟨idle, rfl⟩, fun first there => ?_⟩
      rw [found, Option.some.injEq] at there
      subst there
      exact ⟨.refl idle, fun committed => ⟨committed, rfl⟩⟩

/-- The directory is open, and what is in it attests to what is in memory as long as it can be read. -/
structure Attested (origin : OrdMap PlanId Plan) (engine : Engine onDisk) : Prop where
  sits : Sits engine
  quiet : engine.disk.inFlight = none
  holding : Holding origin engine.plans
  tracks : Decodes engine.disk.acknowledged → Tracks (Attests origin) engine.plans engine.disk.acknowledged

variable {origin : OrdMap PlanId Plan} {engine : Engine onDisk}

theorem Decodes.before {before after : List DurableRecord} (decodes : Decodes after)
    (grown : before <+: after) :
    Decodes before := fun record member => decodes record (grown.subset member)

theorem Holding.call (holding : Holding origin engine.plans) (keyed : Keyed engine.plans)
    (operation : Operation onDisk) : Holding origin (engine.call operation).2.plans := by
  intro id absent
  refine holding id ?_
  cases found : engine.plans.find? id with
  | none => rfl
  | some plan =>
      obtain ⟨later, present, -⟩ := (apply_advances keyed operation).kept id plan found
      rw [apply_eq_call, absent] at present
      cases present

/-- A call that writes plans. -/
theorem Attested.call (attested : Attested origin engine) (operation : Operation onDisk)
    (writing : operation.Writing) : Attested origin (engine.apply operation) := by
  have keyed := attested.sits.steady.sound.keyed
  obtain ⟨sits, grown⟩ := attested.sits.apply operation writing
  obtain ⟨session, attached, -⟩ := attested.sits.attached
  obtain ⟨written, writes, stores⟩ := call_stores keyed writing
  obtain ⟨part, records, later, found, within, whole, logged, spells, same⟩ :=
    writeAll_acknowledged session written
  have repository := writes.repository
  rw [attached, found, ← apply_eq_call] at repository
  refine ⟨sits, ?_, ?_, fun decodes => ?_⟩
  · have quiet := attested.quiet
    rw [disk_some attached] at quiet
    rw [disk_some repository]
    exact same.trans quiet
  · rw [apply_eq_call]
    exact attested.holding.call keyed operation
  · have tracks := attested.tracks (decodes.before grown)
    rw [disk_some repository] at decodes ⊢
    rw [disk_some attached] at tracks
    rw [logged] at decodes ⊢
    rw [apply_eq_call]
    rw [← attached] at whole
    exact tracks.call keyed (attests_survives attested.holding operation) stores within whole spells
      fun record member => decodes record (List.mem_append_right _ member)

/-- A record that is not of a plan says nothing of the plans. -/
theorem Tracks.other {related : PlanId → Plan → Plan → Prop} {plans : OrdMap PlanId Plan}
    {log : List DurableRecord}
    (tracks : Tracks related plans log) {record : DurableRecord} (other : record.type ≠ .plan) :
    Tracks related plans (log ++ [record]) := by
  intro id
  rw [recoveredPlans_other log other]
  exact tracks id

/-- An append of another record. -/
theorem Attested.append (attested : Attested origin engine) {type : RecordType} (other : type ≠ .plan)
    {payload : List UInt8} {session : Session} (attached : engine.repository = some session)
    {later : Engine onDisk}
    (sits : Sits later) (plans : later.plans = engine.plans)
    (appended : later.repository = some (session.call (.append type payload))) : Attested origin later := by
  have quiet := attested.quiet
  have tracks := attested.tracks
  rw [disk_some attached] at quiet tracks
  refine ⟨sits, ?_, by rw [plans]; exact attested.holding, fun decodes => ?_⟩
  · rw [disk_some appended]
    exact (append_inFlight _ _ _).trans quiet
  rw [disk_some appended] at decodes ⊢
  rw [plans]
  cases answered : session.answers type payload with
  | error reason =>
      rw [acknowledged_refused answered] at decodes ⊢
      exact tracks decodes
  | ok =>
      obtain ⟨record, made, acknowledged⟩ := Session.append_acknowledged answered
      rw [acknowledged] at decodes ⊢
      exact (tracks (decodes.before (List.prefix_append _ _))).other (by rw [made.1]; exact other)

end Engine

end TrafficFabric
