import TrafficFabric.CommitAnswers

set_option autoImplicit false

/- Whatever coordinators follow one another on a directory, and wherever they end, no two requests are told
that one plan was committed for different commits. -/
namespace TrafficFabric

open Interleaving (Pool)
open PlanStateMachine (isLive)

namespace Coordinator

/-! One life. -/

open Engine (Attested Holding Tracks Attests Decodes Sits disk_some recoveredPlans)
open Session (Roomy Running Kept)
open PlanRepository (fencesOf)

namespace Life

variable (toJson : Explanation → Text)

/-- A request for a commit was answered with success, and was told this. -/
def Commits (life : Life) (settlement : Settlement) : Prop :=
  ∃ thread request reply, (life.tasks thread).committing = some request ∧
    (life.after toJson life.turns).threads thread = .done (some (.commit reply)) ∧
    reply.code = WireCode.success ∧ settlement = CommitRequest.told request reply

variable {life : Life}

theorem Commits.concluded (steady : life.started.engine.Steady)
    (idle : ∀ id plan, life.started.engine.plans.find? id = some plan → isLive plan.state = false)
    {settlement : Settlement} (commits : life.Commits toJson settlement) :
    Effected life.started.engine.plans settlement (life.after toJson life.turns).state.engine := by
  obtain ⟨thread, request, reply, asked, done, success, rfl⟩ := commits
  have since : Since life.started.engine.plans life.started.engine :=
    ⟨steady, fun id first found => ⟨first, found, .refl (idle id first found)⟩⟩
  have start : heeding.Behaving (fun thread => TellsTruly life.started.engine.plans (life.tasks thread))
      (life.after toJson [], ()) := fun thread => program_tells toJson since
  obtain ⟨-, last⟩ :=
    start.run (Runs.along_mono (fun _ _ _ _ _ _ => trivial) (Runs.along_true _ life.turns))
  have same := heeding.run_fst (life.after toJson [], ()) life.turns
  have behaves := last thread
  rw [same, show Pool.run perform (life.after toJson [], ()).1 life.turns =
    life.after toJson life.turns from rfl,
    done] at behaves
  exact behaves _ (heeding.refl thread _) request _ asked rfl reply rfl success

theorem perform_attested {origin : OrdMap PlanId Plan} {coordinator : Coordinator onDisk}
    (attested : Attested origin coordinator.engine) (action : Action) :
    Attested origin (perform action coordinator).2.engine := by
  cases action with
  | stopping | epoch | incarnation | boot | isFenced | findRegistered | addFence | register | get | explain
  | incumbent | stop => exact attested
  | persistFence fence =>
      obtain ⟨session, attached, opened⟩ := attested.sits.attached
      have sits := (persistFence_onDisk attested.sits fence).1
      change Attested origin (persistFence coordinator.engine fence).2
      unfold persistFence at sits ⊢
      simp only [attached] at sits ⊢
      split at sits
      · rename_i missing
        rw [if_pos missing]
        exact attested
      · rename_i complete
        rw [if_neg complete]
        exact attested.append (show RecordType.fence ≠ .plan by decide) attached sits rfl rfl
  | submitSnapshot snapshot => exact attested.call (.submitSnapshot snapshot) trivial
  | declare request => exact attested.call (.declare request) trivial
  | validate ref => exact attested.call (.validate ref) trivial
  | solve ref => exact attested.call (.solve ref) trivial
  | authorize ref => exact attested.call (.authorize ref) trivial
  | commit ref intent => exact attested.call (.commit ref intent) trivial
  | supersede incumbent replacement => exact attested.call (.supersede incumbent replacement) trivial
  | retire ref => exact attested.call (.retire ref) trivial

theorem after_attested {origin : OrdMap PlanId Plan} (attested : Attested origin life.started.engine)
    (turns : List Nat) : Attested origin (life.after toJson turns).state.engine :=
  Pool.keeps (fun coordinator : Coordinator onDisk => Attested origin coordinator.engine)
    (fun action _ attested => perform_attested attested action) attested turns

end Life

/-- A start adds its epoch to the log. -/
theorem Begins.log {session : Session} {started : Coordinator onDisk} (begins : Begins session started) :
    started.engine.disk.inFlight = session.inFlight ∧ ∃ more : List DurableRecord,
      started.engine.disk.acknowledged = session.acknowledged ++ more ∧
        ∀ record ∈ more, record.type = .coordinatorEpoch := by
  obtain ⟨payload, appended⟩ := begins.appended
  rw [appended]
  refine ⟨Engine.append_inFlight _ _ _, ?_⟩
  cases answered : session.answers .coordinatorEpoch payload with
  | error reason =>
      rw [Engine.acknowledged_refused answered]
      exact ⟨[], by simp, fun _ member => absurd member List.not_mem_nil⟩
  | ok =>
      obtain ⟨record, made, acknowledged⟩ := Session.append_acknowledged answered
      refine ⟨[record], acknowledged, fun other member => ?_⟩
      rw [List.mem_singleton.1 member]
      exact made.1

/-- A coordinator that is started has in memory what is in the directory. -/
theorem start_attested {session : Session} {started : Coordinator onDisk} (begins : Begins session started)
    (quiet : session.inFlight = none) (roomy : Roomy started.engine.disk) :
    started.engine.plans = recoveredPlans session.acknowledged ∧
      Attested started.engine.plans started.engine := by
  obtain ⟨still, more, log, epochs⟩ := begins.log
  have same : recoveredPlans started.engine.disk.acknowledged = recoveredPlans session.acknowledged := by
    rw [log]
    exact Engine.recoveredPlans_others _ fun record member => by simp [epochs record member]
  have plans : started.engine.plans = recoveredPlans started.engine.disk.acknowledged := by
    rw [begins.plans, Running.records (begins.sits.running roomy)]
    rfl
  exact ⟨plans.trans same, begins.sits, still.trans quiet, fun _ absent => absent,
    fun _ => Engine.attests_self plans⟩

/-! The lives of a directory, the plans of which only coordinators write. -/

/-- The call of the engine that an action is. -/
def Action.operation : Action → Option (Engine.Operation onDisk)
  | .submitSnapshot snapshot => some (.submitSnapshot snapshot)
  | .declare request => some (.declare request)
  | .validate ref => some (.validate ref)
  | .solve ref => some (.solve ref)
  | .authorize ref => some (.authorize ref)
  | .commit ref intent => some (.commit ref intent)
  | .supersede first second => some (.supersede first second)
  | .retire ref => some (.retire ref)
  | _ => none

/-- An append that an action comes to: what the directory is by then, and what is appended. -/
inductive Comes (engine : Engine onDisk) : Action → Session → Request → Prop
  | plan {action : Action} {operation : Engine.Operation onDisk} {part rest : List Plan} {plan : Plan}
      {session : Session} (calls : action.operation = some operation)
      (writes : Engine.Writes engine operation (part ++ plan :: rest) (engine.call operation))
      (stores : Engine.Stores engine operation (part ++ plan :: rest) (engine.call operation).2.plans)
      (written : Engine.writeAll engine.repository part = (.ok (), some session))
      (taken : session.answers .plan (encodePlan plan) = .ok ()) :
      Comes engine action session (.append .plan (encodePlan plan))
  | fence {fence : FenceRecord} {session : Session} (attached : engine.repository = some session) :
      Comes engine (.persistFence fence) session (.append .fence (encodeFence fence))

/-- The lives on a directory, the latest first, and what they leave; whatever was in it before. Between two
of them it is opened and compacted, and each ends between two sections or within an append. -/
inductive Reigns (toJson : Explanation → Text) : List Life → Session → Prop
  | begun {session : Session} (reached : Session.Reached session) : Reigns toJson [] session
  | opened {lives : List Life} {session : Session} {options : RepositoryOptions}
      (past : Reigns toJson lives session)
      (admissible : Session.Admissible session (.openAt options)) :
      Reigns toJson lives (session.call (.openAt options))
  | compacted {lives : List Life} {session : Session} (past : Reigns toJson lives session)
      (admissible : Session.Admissible session .compact) : Reigns toJson lives (session.call .compact)
  | crashed {lives : List Life} {session : Session} {request : Request} {found : Directory}
      (past : Reigns toJson lives session) (admissible : Session.Admissible session request)
      (spares : ∀ payload, request ≠ .append .plan payload)
      (crash : Directory.Crashed session.directory (session.actions request) found) :
      Reigns toJson lives (session.crash request found)
  | served {lives : List Life} {session : Session} {life : Life} {high low : UInt64}
      (past : Reigns toJson lives session) (opened : session.repository.isSome = true)
      (starts : start (some session : Option onDisk.Repository) (deriveBootId high low) = .ok life.started)
      (roomy : Roomy (life.after toJson life.turns).state.engine.disk) :
      Reigns toJson (life :: lives) (life.after toJson life.turns).state.engine.disk
  | cut {lives : List Life} {session middle : Session} {life : Life} {high low : UInt64} {thread : Nat}
      {action : Action} {next : Answer action → Handler (Option Response)} {request : Request}
        {found : Directory}
      (past : Reigns toJson lives session) (opened : session.repository.isSome = true)
      (starts : start (some session : Option onDisk.Repository) (deriveBootId high low) = .ok life.started)
      (left : (life.after toJson life.turns).threads thread = .call action next)
      (comes : Comes (life.after toJson life.turns).state.engine action middle request)
      (roomy : Roomy (middle.call request))
      (crash : Directory.Crashed middle.directory (middle.actions request) found) :
      Reigns toJson (life :: lives) (middle.crash request found)

/-- What the directory may be found with. -/
def Bequeaths (session : Session) (log : List DurableRecord) : Prop :=
  log = session.acknowledged ∨ ∃ record, session.inFlight = some record ∧
    log = session.acknowledged ++ [record]

/-- Where the log has the plan committed, it was committed so. -/
def Binds (log : List DurableRecord) (settlement : Settlement) : Prop :=
  ∃ read, (recoveredPlans log).find? settlement.plan.id = some read ∧
    (read.state = .committed → read.settlement = settlement)

theorem Bequeaths.opened {session : Session} (kept : Kept session) (options : RepositoryOptions)
    {log : List DurableRecord} (leaves : Bequeaths (session.call (.openAt options)) log) :
    Bequeaths session log := by
  obtain ⟨held, repository, actions, expected, opened, -, opens⟩ := kept.holds.opens options
  have called : session.call (.openAt options) =
      { directory := session.directory.performAll actions
        repository := some repository
        acknowledged := session.acknowledged ++ repository.records.drop session.acknowledged.length } := by
    simp only [Session.call, Session.actions, opened]
  rw [called] at leaves
  rcases leaves with same | ⟨_, flying, -⟩
  · change log = _ at same
    rw [opens.agrees.records] at same
    rcases expected with rfl | ⟨record, flying, rfl⟩
    · rw [List.drop_length, List.append_nil] at same
      exact .inl same
    · rw [List.drop_left] at same
      exact .inr ⟨record, flying, same⟩
  · cases flying

theorem Bequeaths.crashed {session : Session} {request : Request}
    (spares : ∀ payload, request ≠ .append .plan payload) {found : Directory} {log : List DurableRecord}
    (leaves : Bequeaths (session.crash request found) log) :
    Bequeaths session log ∨
      ∃ record : DurableRecord, record.type ≠ .plan ∧ log = session.acknowledged ++ [record] := by
  rcases leaves with same | ⟨record, flying, same⟩
  · exact .inl (.inl same)
  change session.writes request = some record at flying
  cases request with
  | openAt | compact => exact .inl (.inr ⟨record, flying, same⟩)
  | append type payload =>
      cases up : session.repository with
      | none =>
          simp only [Session.writes, up] at flying
          exact .inl (.inr ⟨record, flying, same⟩)
      | some repository =>
          simp only [Session.writes, up, Option.some.injEq] at flying
          refine .inr ⟨record, ?_, same⟩
          rw [← flying]
          change type ≠ .plan
          rintro rfl
          exact spares payload rfl

/-- What holds after every history of lives. -/
structure Settled (toJson : Explanation → Text) (lives : List Life) (session : Session) : Prop where
  kept : Kept session
  quiet : session.repository.isSome = true → session.inFlight = none
  binds : ∀ life ∈ lives, ∀ settlement, life.Commits toJson settlement →
    ∀ log, Bequeaths session log → Decodes log →
    Binds log settlement
  agree : Decodes session.acknowledged → ∀ first ∈ lives, ∀ second ∈ lives, ∀ left right,
    first.Commits toJson left → second.Commits toJson right → left.plan.id = right.plan.id → left = right

variable {toJson : Explanation → Text} {lives : List Life} {session : Session}

theorem call_quiet {request : Request} (quiet : session.repository.isSome = true → session.inFlight = none)
    (opened : (session.call request).repository.isSome = true) :
    (session.call request).inFlight = none := by
  cases request with
  | openAt options =>
      simp only [Session.call] at opened ⊢
      cases answer : PlanRepository.openRepository options session.directory with
      | error reason =>
          rw [answer] at opened
          exact quiet opened
      | ok found => rfl
  | append type payload =>
      rw [Engine.append_inFlight]
      refine quiet ?_
      cases up : session.repository with
      | none => simp [Session.call, up] at opened
      | some repository => rfl
  | compact =>
      cases up : session.repository with
      | none => simp [Session.call, up] at opened
      | some repository =>
          simp only [Session.call, up]
          exact quiet (by rw [up]; rfl)

theorem reached_quiet (reached : Session.Reached session) (opened : session.repository.isSome = true) :
    session.inFlight = none := by
  induction reached with
  | start => cases opened
  | @call session request _ _ ih => exact call_quiet ih opened
  | crash => cases opened

theorem crash_quiet {request : Request} {found : Directory}
    (opened : (session.crash request found).repository.isSome = true) :
    (session.crash request found).inFlight = none := by
  cases opened

/-- The log has every plan of the engine, as it is or as the next call makes it. -/
def Shows (origin : OrdMap PlanId Plan) (engine : Engine onDisk) (log : List DurableRecord) : Prop :=
  ∀ id plan, engine.plans.find? id = some plan → ∃ later read,
    (isLive plan.state = false → later.settlement = plan.settlement) ∧
    (recoveredPlans log).find? id = some read ∧ Attests origin id later read

/-- One life more. -/
theorem Settled.live {life : Life} {after : Session} (settled : Settled toJson lives session)
    (plans : life.started.engine.plans = recoveredPlans session.acknowledged)
    (steady : life.started.engine.Steady)
    (holding : Holding life.started.engine.plans (life.after toJson life.turns).state.engine.plans)
    (kept : Kept after) (quiet : after.repository.isSome = true → after.inFlight = none)
    (grown : session.acknowledged <+: after.acknowledged)
    (shows : ∀ log, Bequeaths after log → Decodes log →
      Shows life.started.engine.plans (life.after toJson life.turns).state.engine log) :
    Settled toJson (life :: lives) after := by
  have idle : ∀ id plan, life.started.engine.plans.find? id = some plan → isLive plan.state = false := by
    intro id plan found
    rw [plans] at found
    exact Engine.recoveredPlans_idle found
  have concluded : ∀ settlement, life.Commits toJson settlement →
    Effected life.started.engine.plans settlement
      (life.after toJson life.turns).state.engine :=
    fun settlement commits => commits.concluded toJson steady idle
  -- What an earlier life has told is said of the plans of the beginning.
  have earlier : Decodes session.acknowledged → ∀ other ∈ lives, ∀ settlement,
    other.Commits toJson settlement →
      ∃ first, life.started.engine.plans.find? settlement.plan.id = some first ∧
        (first.state = .committed → first.settlement = settlement) := by
    intro decodes other member settlement commits
    rw [plans]
    exact settled.binds other member settlement commits _ (.inl rfl) decodes
  have mixed : Decodes session.acknowledged → ∀ other ∈ lives, ∀ left right, other.Commits toJson left →
      life.Commits toJson right → left.plan.id = right.plan.id → left = right := by
    intro decodes other member left right before now same
    obtain ⟨first, found, told⟩ := earlier decodes other member left before
    rw [same] at found
    obtain ⟨committed, equal⟩ := (concluded right now).origin first found
    exact (told committed).symm.trans equal
  refine ⟨kept, quiet, ?_, ?_⟩
  · intro other member settlement commits log leaves decodes
    have within : after.acknowledged <+: log := by
      rcases leaves with rfl | ⟨record, -, rfl⟩
      · exact List.prefix_rfl
      · exact List.prefix_append _ _
    rcases List.mem_cons.1 member with rfl | member
    · obtain ⟨plan, found, still, same⟩ := (concluded settlement commits).held
      obtain ⟨later, read, kept, there, attests⟩ := shows log leaves decodes _ plan found
      exact ⟨read, there, fun committed => (attests.settled committed).2.trans ((kept still).trans same)⟩
    · obtain ⟨first, found, told⟩ :=
        earlier (decodes.before (grown.trans within)) other member settlement commits
      cases held : (life.after toJson life.turns).state.engine.plans.find? settlement.plan.id with
      | none =>
          rw [holding _ held] at found
          cases found
      | some plan =>
          obtain ⟨later, read, -, there, attests⟩ := shows log leaves decodes _ plan held
          refine ⟨read, there, fun committed => ?_⟩
          obtain ⟨was, same⟩ := (attests.origin first found).2 committed
          exact same.trans (told was)
  · intro decodes first one second two left right before now same
    have decodes := decodes.before grown
    rcases List.mem_cons.1 one with rfl | old
    · rcases List.mem_cons.1 two with rfl | old
      · obtain ⟨plan, found, -, told⟩ := (concluded left before).held
        obtain ⟨again, present, -, equal⟩ := (concluded right now).held
        rw [same, present, Option.some.injEq] at found
        rw [← told, ← found, equal]
      · exact (mixed decodes second old right left now before same.symm).symm
    · rcases List.mem_cons.1 two with rfl | older
      · exact mixed decodes first old left right before now same
      · exact settled.agree decodes first old second older left right before now same

theorem shows_tracked {origin : OrdMap PlanId Plan} {engine : Engine onDisk} {log : List DurableRecord}
    (tracks : Tracks (Attests origin) engine.plans log) : Shows origin engine log := by
  intro id plan found
  obtain ⟨read, there, attests⟩ := tracks.read found
  exact ⟨plan, read, fun _ => rfl, there, attests⟩

theorem Bequeaths.quiet {session : Session} {log : List DurableRecord} (leaves : Bequeaths session log)
    (quiet : session.inFlight = none) : log = session.acknowledged := by
  rcases leaves with same | ⟨record, flying, -⟩
  · exact same
  · rw [quiet] at flying
    cases flying

/-- Within an append of a fence. -/
theorem shows_fence {origin : OrdMap PlanId Plan} {engine : Engine onDisk}
    (attested : Attested origin engine)
    {session : Session} (attached : engine.repository = some session) {payload : List UInt8}
    {found : Directory}
    {log : List DurableRecord} (leaves : Bequeaths (session.crash (.append .fence payload) found) log)
    (decodes : Decodes log) : Shows origin engine log := by
  have quiet := attested.quiet
  have tracks := attested.tracks
  rw [disk_some attached] at quiet tracks
  rcases leaves.crashed (by nofun) with leaves | ⟨record, other, same⟩
  · rw [leaves.quiet quiet] at decodes ⊢
    exact shows_tracked (tracks decodes)
  · rw [same] at decodes ⊢
    exact shows_tracked ((tracks (decodes.before (List.prefix_append _ _))).other other)

/-- Within an append of a plan. -/
theorem shows_plan {origin : OrdMap PlanId Plan} {engine : Engine onDisk}
    (attested : Attested origin engine)
    {operation : Engine.Operation onDisk} {part rest : List Plan} {plan : Plan} {middle : Session}
    (stores : Engine.Stores engine operation (part ++ plan :: rest) (engine.call operation).2.plans)
    (written : Engine.writeAll engine.repository part = (.ok (), some middle))
    (taken : middle.answers .plan (encodePlan plan) = .ok ()) {found : Directory} {log : List DurableRecord}
    (leaves : Bequeaths (middle.crash (.append .plan (encodePlan plan)) found) log)
    (decodes : Decodes log) :
    Shows origin engine log := by
  obtain ⟨session, attached, -⟩ := attested.sits.attached
  have tracks := attested.tracks
  rw [disk_some attached] at tracks
  have keyed := attested.sits.steady.sound.keyed
  obtain ⟨first, records, later, reached, -, whole, logged, spells, -⟩ :=
    Engine.writeAll_acknowledged session part
  rw [attached] at written
  rw [written] at reached whole
  cases reached
  obtain rfl := whole.2 rfl
  -- What is read is what was written up to here, or the plan that was being written besides.
  have cut : ∀ {more : List DurableRecord} {plans : List Plan}, List.Forall₂ Engine.Spells more plans →
      plans ⊆ first ++ plan :: rest → log = session.acknowledged ++ more → Shows origin engine log := by
    intro more plans spells within same id held there
    rw [same] at decodes ⊢
    obtain ⟨last, read, step, present, attests⟩ :=
      (tracks (decodes.before (List.prefix_append _ _))).cut keyed
        (Engine.attests_survives attested.holding operation) stores within spells
        (fun record member => decodes record (List.mem_append_right _ member)) there
    exact ⟨last, read, fun idle => (step.abides idle).settlement, present, attests⟩
  rcases leaves with same | ⟨record, flying, same⟩
  · exact cut spells (List.subset_append_left _ _) (same.trans logged)
  · change log = middle.acknowledged ++ [record] at same
    rw [logged, List.append_assoc] at same
    refine cut (List.rel_append spells (.cons (Engine.writes_spells taken flying) .nil)) ?_ same
    intro other member
    simp only [List.mem_append, List.mem_cons, List.not_mem_nil, or_false] at member ⊢
    tauto

/-- The directory within an action. -/
theorem Comes.middle {engine : Engine onDisk} (sits : Sits engine) {action : Action} {middle : Session}
    {request : Request} (comes : Comes engine action middle request) :
    engine.disk.acknowledged <+: middle.acknowledged ∧ (Roomy middle → Running middle) ∧
      ∃ type payload, request = .append type payload := by
  obtain ⟨session, attached, opened⟩ := sits.attached
  have running := sits.running
  rw [disk_some attached] at running ⊢
  cases comes with
  | fence present =>
      rw [attached, Option.some.injEq] at present
      subst present
      exact ⟨List.prefix_rfl, running, _, _, rfl⟩
  | @plan _ operation part rest plan _ calls writes stores written taken =>
      obtain ⟨later, reached, -, grown, runs⟩ := Engine.writeAll_onDisk opened part running
      rw [attached] at written
      rw [written, Option.some.injEq] at reached
      subst reached
      exact ⟨grown, runs, _, _, rfl⟩

/-- A life begins with what is in the directory. -/
theorem Settled.starts {life : Life} {high low : UInt64} (settled : Settled toJson lives session)
    (opened : session.repository.isSome = true)
    (starts : start (some session : Option onDisk.Repository) (deriveBootId high low) = .ok life.started)
    (roomy : Roomy (life.after toJson life.turns).state.engine.disk) :
    life.started.engine.plans = recoveredPlans session.acknowledged ∧
      Attested life.started.engine.plans life.started.engine ∧
      Attested life.started.engine.plans (life.after toJson life.turns).state.engine ∧
      session.acknowledged <+: (life.after toJson life.turns).state.engine.disk.acknowledged := by
  have begins := start_begins (settled.kept.isRunning opened) (deriveBootId_valid high low) starts
  obtain ⟨-, grown⟩ := (Life.after_stays toJson (List.nil_prefix (l := life.turns))).disk begins.sits
  obtain ⟨plans, attested⟩ := start_attested begins (settled.quiet opened) (roomy.before grown)
  exact ⟨plans, attested, Life.after_attested toJson attested life.turns, begins.grown.trans grown⟩

theorem Settled.unchanged {after : Session} (settled : Settled toJson lives session) (kept : Kept after)
    (quiet : after.repository.isSome = true → after.inFlight = none)
    (grown : session.acknowledged <+: after.acknowledged)
    (leaves : ∀ log, Bequeaths after log →
      ∃ old, Bequeaths session old ∧ old <+: log ∧ recoveredPlans log = recoveredPlans old) :
    Settled toJson lives after := by
  refine ⟨kept, quiet, ?_, fun decodes => settled.agree (decodes.before grown)⟩
  intro life member settlement commits log left decodes
  obtain ⟨old, was, within, same⟩ := leaves log left
  unfold Binds
  rw [same]
  exact settled.binds life member settlement commits old was (decodes.before within)

theorem Reigns.settled (past : Reigns toJson lives session) : Settled toJson lives session := by
  induction past with
  | begun reached =>
      exact ⟨reached.kept, reached_quiet reached, fun _ member => absurd member List.not_mem_nil,
        fun _ _ member => absurd member List.not_mem_nil⟩
  | @opened lives session options past admissible ih =>
      refine ih.unchanged (ih.kept.call admissible) (call_quiet ih.quiet)
        (call_grows _ _) fun log leaves => ?_
      exact ⟨log, leaves.opened ih.kept, List.prefix_rfl, rfl⟩
  | @compacted lives session past admissible ih =>
      refine ih.unchanged (ih.kept.call admissible) (call_quiet ih.quiet)
        (call_grows _ _) fun log leaves => ?_
      refine ⟨log, ?_, List.prefix_rfl, rfl⟩
      cases up : session.repository <;> simpa only [Bequeaths, Session.call, up] using leaves
  | @crashed lives session request found past admissible spares crash ih =>
      refine ih.unchanged (ih.kept.crash admissible crash) crash_quiet List.prefix_rfl fun log leaves => ?_
      rcases leaves.crashed spares with leaves | ⟨record, other, rfl⟩
      · exact ⟨log, leaves, List.prefix_rfl, rfl⟩
      · exact ⟨_, .inl rfl, List.prefix_append _ _, Engine.recoveredPlans_other _ other⟩
  | @served lives session life high low past opened starts roomy ih =>
      obtain ⟨plans, begun, attested, grown⟩ := ih.starts opened starts roomy
      exact ih.live plans begun.sits.steady attested.holding (attested.sits.running roomy).kept
        (fun _ => attested.quiet) grown fun log leaves decodes =>
          shows_tracked (by
            rw [leaves.quiet attested.quiet] at decodes ⊢
            exact attested.tracks decodes)
  | @cut lives session middle life high low thread action next request found past opened
      starts left comes roomy
      crash ih =>
      have begins := start_begins (ih.kept.isRunning opened) (deriveBootId_valid high low) starts
      obtain ⟨sits, -⟩ := (Life.after_stays toJson (List.nil_prefix (l := life.turns))).disk begins.sits
      obtain ⟨within, running, type, payload, rfl⟩ := comes.middle sits
      have middling := roomy.before (call_grows middle (.append type payload))
      obtain ⟨plans, begun, attested, grown⟩ := ih.starts opened starts (middling.before within)
      have running := running middling
      refine ih.live plans begun.sits.steady attested.holding
        (running.kept.crash (running.admissible roomy) crash) crash_quiet
          (grown.trans within) fun log leaves decodes => ?_
      cases comes with
      | fence attached => exact shows_fence attested attached leaves decodes
      | plan calls writes stores written taken =>
          exact shows_plan attested stores written taken leaves decodes

/-- A committed plan, all of whose names can be sent. -/
structure Askable (plan : Plan) : Prop where
  committed : plan.state = .committed
  ref : plan.ref.valid = true
  commit : plan.commit.valid = true
  commitGeneration : plan.commitGeneration.valid = true

/-- The planner under this epoch. -/
def registrationUnder (epoch : UInt64) : RegisterPublisherRequest :=
  { plannerRegistration with coordinatorEpoch := epoch }

def commitUnder (epoch : UInt64) (plan : Plan) : CommitRequest :=
  { binding := { plannerBinding with coordinatorEpoch := epoch }
    plan := plan.ref
    commit := plan.commit
    commitGeneration := plan.commitGeneration }

def askingAgain (epoch : UInt64) (plan : Plan) : Nat → Task
  | 0 => .handle (makeFrame .registerPublisherRequest (registrationUnder epoch).encode)
  | _ => .handle (makeFrame .commitRequest (commitUnder epoch plan).encode)

theorem decode_registrationUnder (epoch : UInt64) :
    decodeRegisterPublisherRequest (registrationUnder epoch).encode = .ok (registrationUnder epoch) := by
  have readable : (registrationUnder epoch).Readable := ⟨rfl, rfl, Nat.zero_le _⟩
  exact decodeWhole_of_yields (Wire.registerPublisherRequest_yields readable) _

theorem decode_commitUnder (epoch : UInt64) {plan : Plan} (askable : Askable plan) :
    decodeCommitRequest (commitUnder epoch plan).encode = .ok (commitUnder epoch plan) := by
  have readable : (commitUnder epoch plan).Readable :=
    ⟨⟨rfl, rfl, rfl, rfl⟩, askable.ref, askable.commit, askable.commitGeneration⟩
  exact decodeWhole_of_yields (Wire.commitRequest_yields readable) _

/-- A coordinator that nobody has asked for anything. -/
structure Idle (coordinator : Coordinator onDisk) : Prop where
  registered : coordinator.registered = OrdMap.empty
  stopping : coordinator.stopping = false
  incarnation : coordinator.incarnation = Gen.first
  fences : coordinator.fences = []
  positive : coordinator.epoch ≠ 0

def withPlanner (coordinator : Coordinator onDisk) : Coordinator onDisk :=
  { coordinator with registered := coordinator.registered.insert (named "planner") plannerBoot }

theorem run_registration (toJson : Explanation → Text) {coordinator : Coordinator onDisk}
    (idle : Idle coordinator)
    (plan : Plan) :
    (Interleaving.run perform ((askingAgain coordinator.epoch plan 0).program toJson) coordinator).2 =
      coordinator.withPlanner := by
  show (Interleaving.run perform (dispatch toJson _ >>= fun response => pure (some response))
    coordinator).2 = _
  rw [Interleaving.run_bind]
  unfold dispatch
  rw [show (makeFrame .registerPublisherRequest (registrationUnder coordinator.epoch).encode).type =
    MessageType.registerPublisherRequest.code from rfl, MessageType.ofCode_code]
  dsimp only [makeFrame]
  rw [decode_registrationUnder]
  refine run_handleRegisterPublisher coordinator ⟨rfl, idle.incarnation.symm⟩ ?_ ?_
  · unfold fenced
    rw [idle.fences]
    rfl
  · rw [idle.registered]
    rfl

/-- The answer to a commit that was made before. -/
theorem run_replay (toJson : Explanation → Text) {coordinator : Coordinator onDisk}
    (idle : Idle coordinator)
    {plan : Plan} (askable : Askable plan) (found : coordinator.engine.plans.find? plan.id = some plan) :
    ∃ reply, Interleaving.run perform ((askingAgain coordinator.epoch plan 1).program toJson)
        coordinator.withPlanner = (some (.commit reply), coordinator.withPlanner) ∧
      reply.code = WireCode.success ∧ reply.plan = plan.ref := by
  have bound : Bound coordinator.withPlanner (commitUnder coordinator.epoch plan).binding :=
    { running := idle.stopping
      valid := by
        unfold MutationBinding.valid
        rw [show ((commitUnder coordinator.epoch plan).binding.coordinatorEpoch != 0) = true from
          bne_iff_ne.2 idle.positive]
        rfl
      incarnation := idle.incarnation.symm
      epoch := rfl
      free := by
        unfold fenced
        rw [show coordinator.withPlanner.fences = [] from idle.fences]
        rfl
      registered := OrdMap.find?_insert_self _ _ _ }
  have held : coordinator.withPlanner.engine.get (commitUnder coordinator.epoch plan).plan = some plan := by
    unfold Engine.get
    rw [show coordinator.withPlanner.engine.plans.find?
      (commitUnder coordinator.epoch plan).plan.id = some plan
      from found]
    simp [commitUnder, Plan.ref]
  have replays : decide (Replays (commitUnder coordinator.epoch plan) plan) = true :=
    decide_eq_true ⟨askable.committed, rfl, rfl⟩
  refine ⟨{ acceptCommit plan with
    detail := text "idempotent replay of an already committed plan"
    idempotentReplay := true }, ?_, rfl, rfl⟩
  show Interleaving.run perform (dispatch toJson _ >>= fun response => pure (some response)) _ = _
  rw [Interleaving.run_bind]
  unfold dispatch
  rw [show (makeFrame .commitRequest (commitUnder coordinator.epoch plan).encode).type =
    MessageType.commitRequest.code from rfl, MessageType.ofCode_code]
  dsimp only [makeFrame]
  unfold handleCommitRequest
  rw [decode_commitUnder coordinator.epoch askable]
  dsimp only
  rw [Interleaving.run_bind, run_validateBinding, (bindingStatus_eq_ok _ _).2 bound]
  dsimp only
  unfold processCommit
  rw [Interleaving.run_call]
  dsimp only [perform]
  rw [held, Option.filter_some, if_pos replays]
  rfl

/-- A life in which the planner registers and asks for the commit again. -/
theorem replaying (toJson : Explanation → Text) {started : Coordinator onDisk}
    (idle : Idle started) {plan : Plan}
    (askable : Askable plan) (found : started.engine.plans.find? plan.id = some plan) :
    ∃ life : Life, life.started = started ∧ life.Commits toJson plan.settlement ∧
      (life.after toJson life.turns).state.engine = started.engine := by
  let tasks := askingAgain started.epoch plan
  let pool : Pool (Coordinator onDisk) Action Answer (Option Response) Nat :=
    ⟨started, fun thread => (tasks thread).program toJson⟩
  obtain ⟨first, -, registered⟩ := Pool.alone perform (fun _ _ => True) ((tasks 0).program toJson)
    (show pool.threads 0 = _ from rfl)
  obtain ⟨reply, told, success, named⟩ := run_replay toJson idle askable found
  have moved := run_registration toJson idle plan
  have waiting : (Pool.run perform pool first).threads 1 = (tasks 1).program toJson := by
    rw [registered]
    dsimp only
    rw [Function.update_of_ne Nat.one_ne_zero]
  obtain ⟨second, -, replayed⟩ := Pool.alone perform (fun _ _ => True) ((tasks 1).program toJson) waiting
  have state : (Pool.run perform pool first).state = started.withPlanner := by
    rw [registered]
    exact moved
  rw [state, told] at replayed
  let life : Life := ⟨started, tasks, first ++ second⟩
  have ended : life.after toJson life.turns = Pool.run perform (Pool.run perform pool first) second :=
    Pool.run_append perform pool first second
  refine ⟨life, rfl, ⟨1, commitUnder started.epoch plan, reply, ?_, ?_, success, ?_⟩, ?_⟩
  · show committingOf (makeFrame .commitRequest (commitUnder started.epoch plan).encode) = _
    unfold committingOf
    rw [show (makeFrame .commitRequest (commitUnder started.epoch plan).encode).type =
      MessageType.commitRequest.code from rfl, MessageType.ofCode_code]
    dsimp only [makeFrame]
    rw [decode_commitUnder started.epoch askable]
    rfl
  · rw [ended, replayed]
    exact Function.update_self 1 _ (Pool.run perform pool first).threads
  · unfold CommitRequest.told Plan.settlement
    rw [named, if_pos askable.commit]
    rfl
  · rw [ended, replayed]
    rfl

/-- A directory in which the plan is committed. -/
structure Replayable (session : Session) (count : Nat) (plan : Plan) : Prop where
  brief : Brief session count
  quiet : session.inFlight = none
  unfenced : fencesOf session.acknowledged = []
  held : (recoveredPlans session.acknowledged).find? plan.id = some plan
  decodes : Decodes session.acknowledged

/-- Such a life leaves the directory as one in which the plan is committed, and that is then opened again.
-/
theorem Replayable.again {count : Nat} {plan : Plan} (replayable : Replayable session count plan)
    (bound : count < 7)
    (askable : Askable plan) (past : Reigns toJson lives session) :
    ∃ (life : Life) (after : Session), Reigns toJson (life :: lives) after ∧
      life.Commits toJson plan.settlement ∧
      Replayable after (count + 1) plan := by
  have brief := replayable.brief
  obtain ⟨started, starts, later⟩ := brief.starts (by omega) (deriveBootId_valid 1 1)
  have begins := start_begins brief.running (deriveBootId_valid 1 1) starts
  have roomy := later.few.roomy (by omega)
  obtain ⟨plans, attested⟩ := start_attested begins replayable.quiet roomy
  obtain ⟨-, incarnation, running, fresh⟩ := start_history starts
  obtain ⟨still, more, log, epochs⟩ := begins.log
  have unfenced : fencesOf started.engine.disk.acknowledged = [] := by
    rw [log, fencesOf_append, replayable.unfenced, List.nil_append]
    unfold PlanRepository.fencesOf
    rw [List.filterMap_eq_nil_iff]
    intro record member
    simp [epochs record member]
  have idle : Idle started :=
    ⟨fresh, running, incarnation, (begins.fences roomy).trans unfenced, fun zero => by
      have above := begins.above
      rw [zero] at above
      exact absurd above UInt64.not_lt_zero⟩
  obtain ⟨life, rfl, commits, same⟩ := replaying toJson idle askable (by rw [plans]; exact replayable.held)
  have opened : session.repository.isSome = true := by
    obtain ⟨repository, -, -, up, -⟩ := brief.running
    rw [up]
    rfl
  have served := Reigns.served past opened starts (by rw [same]; exact roomy)
  rw [same] at served
  have quiet : life.started.engine.disk.inFlight = none := still.trans replayable.quiet
  obtain ⟨admissible, reopened⟩ := later.reopened (by omega)
  have acknowledged : (life.started.engine.disk.call (.openAt {})).acknowledged =
      life.started.engine.disk.acknowledged :=
    (Bequeaths.opened later.running.kept {} (.inl rfl)).quiet quiet
  refine ⟨life, _, .opened served admissible, commits, reopened, call_quiet (fun _ => quiet) ?_, ?_, ?_, ?_⟩
  · obtain ⟨repository, -, -, up, -⟩ := reopened.running
    rw [up]
    rfl
  · rw [acknowledged]
    exact unfenced
  · rw [acknowledged, log,
      Engine.recoveredPlans_others _ fun record member => by simp [epochs record member]]
    exact replayable.held
  · rw [acknowledged, log]
    intro record member type
    rcases List.mem_append.1 member with member | member
    · exact replayable.decodes record member type
    · rw [epochs record member] at type
      cases type

/-- The stored plan, as it is found. -/
theorem restored_askable : Askable (Engine.restored storedPlan.durable) :=
  ⟨by decide, by decide, by decide, by decide⟩

/-- The plan is in the directory before the first of two coordinators starts. -/
theorem replayable_stored : ∃ session, Session.Reached session ∧
    Replayable session 1 (Engine.restored storedPlan.durable) := by
  have few : Few ({} : Session).acknowledged 0 :=
    ⟨le_refl 0, fun _ member => absurd member List.not_mem_nil,
      fun _ member => absurd member List.not_mem_nil⟩
  obtain ⟨admissible, opened⟩ := brief_opened Session.start_kept Session.holds_empty few (by decide)
  have reached := Session.Reached.call .start admissible
  have quiet : (({} : Session).call (.openAt {})).inFlight = none := call_quiet (fun _ => rfl) (by
    obtain ⟨repository, -, -, up, -⟩ := opened.running
    rw [up]
    rfl)
  have empty : (({} : Session).call (.openAt {})).acknowledged = [] :=
    (Bequeaths.opened Session.start_kept {} (.inl rfl)).quiet rfl
  generalize ({} : Session).call (.openAt {}) = blank at opened reached quiet empty
  have bounded : (encodePlan storedPlan).length ≤ Frame.maxRecordPayload := by decide +kernel
  have low : ∀ record, Journal.Says record .plan (encodePlan storedPlan) →
      ∀ epoch ∈ PlanRepository.epochsOf [record], epoch.toNat ≤ 1 := by
    intro record made epoch member
    unfold PlanRepository.epochsOf at member
    rw [List.filterMap_cons, List.filterMap_nil, if_neg (by rw [made.1]; decide)] at member
    cases member
  obtain ⟨answered, stored⟩ := opened.appended (by decide) bounded low
  obtain ⟨record, spelled, acknowledged⟩ := Engine.acknowledged_spells answered
  rw [empty, List.nil_append] at acknowledged
  have read : decodePlan record.payload = .ok storedPlan.durable := by
    rw [spelled.1.2]
    exact decodePlan_of_readable storedPlan_readable
  refine ⟨_, reached.call (opened.running.admissible (stored.few.roomy (by decide))),
    stored, ?_, ?_, ?_, ?_⟩
  · rw [Engine.append_inFlight]
    exact quiet
  · rw [acknowledged]
    unfold PlanRepository.fencesOf
    rw [List.filterMap_cons, List.filterMap_nil, if_neg (by rw [spelled.1.1]; decide)]
  · have recovered := Engine.recoveredPlans_plan [] spelled ⟨_, read⟩ storedPlan.id
    rw [if_pos rfl] at recovered
    rw [acknowledged]
    exact recovered
  · rw [acknowledged]
    intro other member _
    rw [List.mem_singleton.1 member]
    exact ⟨_, read⟩

end Coordinator

end TrafficFabric
