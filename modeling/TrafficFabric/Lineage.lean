import TrafficFabric.EnginePipeline
import TrafficFabric.Lib.Succession

set_option autoImplicit false

/- Supersession over whole runs. The plans of an engine form chains, the plan at the newer end of a
chain is the only one that can be committed, and the incumbent reference names it. -/
namespace TrafficFabric

open PlanStateMachine (isLive)

/-- The identity a reference names, if it is not the empty one. -/
def Ref.target {id : IdKind} {generation : GenKind} (ref : Ref id generation) : Option (Id id) :=
  if ref.id.valid then some ref.id else none

@[simp] theorem Ref.target_default {id : IdKind} {generation : GenKind} :
    (default : Ref id generation).target = none := rfl

theorem Ref.target_of_valid {id : IdKind} {generation : GenKind} {ref : Ref id generation}
    (valid : ref.id.valid = true) : ref.target = some ref.id := if_pos valid

namespace Engine

/-- The plan that the plan with this identity superseded. -/
def older (plans : OrdMap PlanId Plan) (id : PlanId) : Option PlanId :=
  (plans.find? id).bind fun plan => plan.supersedes.target

/-- The plan that superseded the plan with this identity. -/
def newer (plans : OrdMap PlanId Plan) (id : PlanId) : Option PlanId :=
  (plans.find? id).bind fun plan => plan.supersededBy.target

/-- Empty, or the reference of a plan in the table. -/
def Refers (plans : OrdMap PlanId Plan) (ref : PlanRef) : Prop :=
  ref = default ∨ ∃ plan, plans.find? ref.id = some plan ∧ ref = plan.ref

/-- What supersession leaves of the plans at any time. -/
structure Lineage (plans : OrdMap PlanId Plan) (incumbent : PlanRef) : Prop where
  keyed : Keyed plans
  valid : ∀ id plan, plans.find? id = some plan → id.valid = true
  succession : Succession (older plans) (newer plans)
  supersedes : ∀ id plan, plans.find? id = some plan → Refers plans plan.supersedes
  supersededBy : ∀ id plan, plans.find? id = some plan → Refers plans plan.supersededBy
  fresh : ∀ id plan, plans.find? id = some plan → isLive plan.state = true →
    plan.supersedes = default ∧ plan.supersededBy = default
  leading : ∀ id plan, plans.find? id = some plan → plan.state = .committed →
    plan.supersededBy = default ∧ incumbent = plan.ref

/-- Two versions of a plan with the same place in its chain. -/
structure SamePlace (before after : Plan) : Prop where
  id : after.id = before.id
  generation : after.generation = before.generation
  supersedes : after.supersedes = before.supersedes
  supersededBy : after.supersededBy = before.supersededBy
  live : isLive after.state = true → isLive before.state = true

theorem SamePlace.refl (plan : Plan) : SamePlace plan plan :=
  ⟨rfl, rfl, rfl, rfl, fun live => live⟩

theorem SamePlace.ref {before after : Plan} (same : SamePlace before after) : after.ref = before.ref := by
  unfold Plan.ref
  rw [same.id, same.generation]

/-- The two tables hold the same plans, each in its place. -/
def SamePlaces (plans after : OrdMap PlanId Plan) : Prop :=
  ∀ id, Option.Rel SamePlace (plans.find? id) (after.find? id)

section Places

variable {plans after : OrdMap PlanId Plan}

theorem SamePlaces.back (same : SamePlaces plans after) {id : PlanId} {later : Plan}
    (found : after.find? id = some later) : ∃ plan, plans.find? id = some plan ∧ SamePlace plan later := by
  have related := same id
  rw [found] at related
  cases before : plans.find? id with
  | none =>
      rw [before] at related
      cases related
  | some plan =>
      rw [before] at related
      cases related with
      | some place => exact ⟨plan, rfl, place⟩

theorem SamePlaces.forth (same : SamePlaces plans after) {id : PlanId} {plan : Plan}
    (found : plans.find? id = some plan) : ∃ later, after.find? id = some later ∧ SamePlace plan later := by
  have related := same id
  rw [found] at related
  cases next : after.find? id with
  | none =>
      rw [next] at related
      cases related
  | some later =>
      rw [next] at related
      cases related with
      | some place => exact ⟨later, rfl, place⟩

theorem SamePlaces.older_eq (same : SamePlaces plans after) : older after = older plans := by
  funext id
  unfold older
  cases related : after.find? id with
  | none =>
      have before := same id
      rw [related] at before
      cases held : plans.find? id with
      | none => rfl
      | some plan =>
          rw [held] at before
          cases before
  | some later =>
      obtain ⟨plan, held, place⟩ := same.back related
      rw [held, Option.bind_some, Option.bind_some, place.supersedes]

theorem SamePlaces.newer_eq (same : SamePlaces plans after) : newer after = newer plans := by
  funext id
  unfold newer
  cases related : after.find? id with
  | none =>
      have before := same id
      rw [related] at before
      cases held : plans.find? id with
      | none => rfl
      | some plan =>
          rw [held] at before
          cases before
  | some later =>
      obtain ⟨plan, held, place⟩ := same.back related
      rw [held, Option.bind_some, Option.bind_some, place.supersededBy]

theorem SamePlaces.refers (same : SamePlaces plans after) {ref : PlanRef} (refers : Refers plans ref) :
    Refers after ref := by
  rcases refers with absent | ⟨plan, found, rfl⟩
  · exact Or.inl absent
  · obtain ⟨later, present, place⟩ := same.forth found
    exact Or.inr ⟨later, present, place.ref.symm⟩

/-- A plan that is new, or has the reference of the plan in its place, takes no reference away. -/
theorem refers_insert {id : PlanId} {next : Plan}
    (kept : ∀ plan, plans.find? id = some plan → next.ref = plan.ref) {ref : PlanRef}
    (refers : Refers plans ref) : Refers (plans.insert id next) ref := by
  rcases refers with absent | ⟨plan, found, rfl⟩
  · exact Or.inl absent
  · by_cases here : plan.ref.id = id
    · rw [here] at found
      refine Or.inr ⟨next, ?_, (kept plan found).symm⟩
      rw [here, OrdMap.find?_insert_self]
    · refine Or.inr ⟨plan, ?_, rfl⟩
      rw [OrdMap.find?_insert_ne _ _ _ _ here]
      exact found

theorem samePlaces_insert {id : PlanId} {plan next : Plan} (found : plans.find? id = some plan)
    (place : SamePlace plan next) : SamePlaces plans (plans.insert id next) := by
  intro other
  rw [OrdMap.find?_insert]
  by_cases here : other = id
  · rw [if_pos here, here, found]
    exact Option.Rel.some place
  · rw [if_neg here]
    cases plans.find? other with
    | none => exact Option.Rel.none
    | some held => exact Option.Rel.some (SamePlace.refl held)

end Places

section Steps

variable {plans after : OrdMap PlanId Plan} {incumbent next : PlanRef}

/-- Where all plans stay in their places, only the committed ones have to be looked at. -/
theorem Lineage.touch (lineage : Lineage plans incumbent) (same : SamePlaces plans after)
    (leading : ∀ id plan, after.find? id = some plan → plan.state = .committed →
      plan.supersededBy = default ∧ next = plan.ref) : Lineage after next where
  keyed id later found := by
    obtain ⟨plan, before, place⟩ := same.back found
    exact place.id.trans (lineage.keyed id plan before)
  valid id later found := by
    obtain ⟨plan, before, -⟩ := same.back found
    exact lineage.valid id plan before
  succession := by
    rw [same.older_eq, same.newer_eq]
    exact lineage.succession
  supersedes id later found := by
    obtain ⟨plan, before, place⟩ := same.back found
    rw [place.supersedes]
    exact same.refers (lineage.supersedes id plan before)
  supersededBy id later found := by
    obtain ⟨plan, before, place⟩ := same.back found
    rw [place.supersededBy]
    exact same.refers (lineage.supersededBy id plan before)
  fresh id later found live := by
    obtain ⟨plan, before, place⟩ := same.back found
    rw [place.supersedes, place.supersededBy]
    exact lineage.fresh id plan before (place.live live)
  leading := leading

/-- The same, for a change that commits no plan and keeps the incumbent. -/
theorem Lineage.keep (lineage : Lineage plans incumbent) (same : SamePlaces plans after)
    (uncommitted : ∀ id plan later, plans.find? id = some plan → after.find? id = some later →
      later.state = .committed → plan.state = .committed) : Lineage after incumbent := by
  refine lineage.touch same fun id later found committed => ?_
  obtain ⟨plan, before, place⟩ := same.back found
  have was := uncommitted id plan later before found committed
  rw [place.supersededBy, place.ref]
  exact lineage.leading id plan before was

/-- One plan changes in its place. -/
theorem Lineage.replace (lineage : Lineage plans incumbent) {id : PlanId} {plan later : Plan}
    (found : plans.find? id = some plan) (place : SamePlace plan later)
    (uncommitted : later.state = .committed → plan.state = .committed) :
    Lineage (plans.insert id later) incumbent := by
  refine lineage.keep (samePlaces_insert found place) fun other held last before after committed => ?_
  rcases find?_insert_cases after with ⟨rfl, rfl⟩ | ⟨-, same⟩
  · rw [found, Option.some.injEq] at before
    rw [← before]
    exact uncommitted committed
  · rw [before, Option.some.injEq] at same
    rw [same]
    exact committed

theorem Lineage.empty (incumbent : PlanRef) : Lineage (OrdMap.empty : OrdMap PlanId Plan) incumbent :=
  ⟨fun _ _ found => absurd found nofun, fun _ _ found => absurd found nofun, Succession.empty,
    fun _ _ found => absurd found nofun, fun _ _ found => absurd found nofun,
    fun _ _ found => absurd found nofun, fun _ _ found => absurd found nofun⟩

/-- A new plan stands alone. -/
theorem Lineage.declare (lineage : Lineage plans incumbent) {plan : Plan} (valid : plan.id.valid = true)
    (absent : plans.find? plan.id = none) (declared : plan.state = .declared)
    (alone : plan.supersedes = default ∧ plan.supersededBy = default) :
    Lineage (plans.insert plan.id plan) incumbent := by
  have refers : ∀ ref, Refers plans ref → Refers (plans.insert plan.id plan) ref := by
    intro ref refers
    refine refers_insert (fun held found => ?_) refers
    rw [absent] at found
    cases found
  have same_older : older (plans.insert plan.id plan) = older plans := by
    funext id
    unfold older
    rw [OrdMap.find?_insert]
    by_cases here : id = plan.id
    · rw [if_pos here, here, absent, Option.bind_some, alone.1]
      rfl
    · rw [if_neg here]
  have same_newer : newer (plans.insert plan.id plan) = newer plans := by
    funext id
    unfold newer
    rw [OrdMap.find?_insert]
    by_cases here : id = plan.id
    · rw [if_pos here, here, absent, Option.bind_some, alone.2]
      rfl
    · rw [if_neg here]
  constructor
  · intro id later found
    rcases find?_insert_cases found with ⟨same, rfl⟩ | ⟨-, before⟩
    · exact same.symm
    · exact lineage.keyed id later before
  · intro id later found
    rcases find?_insert_cases found with ⟨rfl, -⟩ | ⟨-, before⟩
    · exact valid
    · exact lineage.valid id later before
  · rw [same_older, same_newer]
    exact lineage.succession
  · intro id later found
    rcases find?_insert_cases found with ⟨-, rfl⟩ | ⟨-, before⟩
    · exact Or.inl alone.1
    · exact refers _ (lineage.supersedes id later before)
  · intro id later found
    rcases find?_insert_cases found with ⟨-, rfl⟩ | ⟨-, before⟩
    · exact Or.inl alone.2
    · exact refers _ (lineage.supersededBy id later before)
  · intro id later found live
    rcases find?_insert_cases found with ⟨-, rfl⟩ | ⟨-, before⟩
    · exact alone
    · exact lineage.fresh id later before live
  · intro id later found committed
    rcases find?_insert_cases found with ⟨-, rfl⟩ | ⟨-, before⟩
    · rw [declared] at committed
      cases committed
    · exact lineage.leading id later before committed

/-- No two plans are committed at once. -/
theorem Lineage.single (lineage : Lineage plans incumbent) {first second : PlanId} {left right : Plan}
    (foundLeft : plans.find? first = some left) (foundRight : plans.find? second = some right)
    (committedLeft : left.state = .committed) (committedRight : right.state = .committed) :
    first = second := by
  have leads := (lineage.leading first left foundLeft committedLeft).2
  have follows := (lineage.leading second right foundRight committedRight).2
  rw [← lineage.keyed first left foundLeft, ← lineage.keyed second right foundRight]
  exact congrArg Ref.id (leads.symm.trans follows)

/-- A commit that displaces the incumbent puts the plan at the newer end of its chain. -/
theorem Lineage.displace (lineage : Lineage plans incumbent) {plan previous : Plan} (intent : CommitIntent)
    (found : plans.find? plan.id = some plan) (there : plans.find? previous.id = some previous)
    (live : isLive plan.state = true) (committed : previous.state = .committed) :
    Lineage ((plans.insert previous.id (supersededPlan previous plan.ref)).insert plan.id
      (displacingPlan plan intent previous.ref)) plan.ref := by
  let replaced := supersededPlan previous plan.ref
  let displacing := displacingPlan plan intent previous.ref
  let middle := plans.insert previous.id replaced
  have other : plan.id ≠ previous.id := by
    intro same
    rw [same, there, Option.some.injEq] at found
    rw [← found, committed] at live
    cases live
  have fresh := lineage.fresh plan.id plan found live
  have newest := (lineage.leading previous.id previous there committed).1
  have linked : Succession (older (middle.insert plan.id displacing))
      (newer (middle.insert plan.id displacing)) := by
    have alone : older plans plan.id = none ∧ newer plans plan.id = none := by
      unfold older newer
      rw [found, Option.bind_some, Option.bind_some, fresh.1, fresh.2]
      exact ⟨rfl, rfl⟩
    have leads : newer plans previous.id = none := by
      rw [newer, there, Option.bind_some, newest]
      rfl
    convert lineage.succession.link alone leads other using 1
    · funext id
      by_cases here : id = plan.id
      · subst here
        rw [Function.update_self, older, OrdMap.find?_insert_self]
        exact Ref.target_of_valid (lineage.valid _ _ there)
      · rw [Function.update_of_ne here, older, older, OrdMap.find?_insert_ne _ _ _ _ here,
          OrdMap.find?_insert]
        by_cases before : id = previous.id
        · rw [if_pos before, before, there]
          rfl
        · rw [if_neg before]
    · funext id
      by_cases here : id = previous.id
      · subst here
        rw [Function.update_self, newer, OrdMap.find?_insert_ne _ _ _ _ other.symm,
          OrdMap.find?_insert_self]
        exact Ref.target_of_valid (lineage.valid _ _ found)
      · rw [Function.update_of_ne here, newer, newer, OrdMap.find?_insert]
        by_cases after : id = plan.id
        · rw [if_pos after, after, found]
          rfl
        · rw [if_neg after, OrdMap.find?_insert_ne _ _ _ _ here]
  have refers : ∀ ref, Refers plans ref → Refers (middle.insert plan.id displacing) ref := by
    intro ref refers
    have first : Refers middle ref := by
      refine refers_insert (fun held here => ?_) refers
      rw [there, Option.some.injEq] at here
      rw [← here]
      rfl
    refine refers_insert (fun held here => ?_) first
    rw [OrdMap.find?_insert_ne _ _ _ _ other, found, Option.some.injEq] at here
    rw [← here]
    rfl
  have cases_of : ∀ {id : PlanId} {later : Plan}, (middle.insert plan.id displacing).find? id = some later →
      id = plan.id ∧ later = displacing ∨ id = previous.id ∧ later = replaced ∨
        id ≠ previous.id ∧ plans.find? id = some later := by
    intro id later present
    rcases find?_insert_cases present with here | ⟨-, before⟩
    · exact Or.inl here
    · exact Or.inr (find?_insert_cases before)
  constructor
  · intro id later present
    rcases cases_of present with ⟨rfl, rfl⟩ | ⟨rfl, rfl⟩ | ⟨-, before⟩
    · rfl
    · rfl
    · exact lineage.keyed id later before
  · intro id later present
    rcases cases_of present with ⟨rfl, -⟩ | ⟨rfl, -⟩ | ⟨-, before⟩
    · exact lineage.valid _ plan found
    · exact lineage.valid _ previous there
    · exact lineage.valid id later before
  · exact linked
  · intro id later present
    rcases cases_of present with ⟨-, rfl⟩ | ⟨-, rfl⟩ | ⟨-, before⟩
    · exact refers _ (Or.inr ⟨previous, there, rfl⟩)
    · exact refers _ (lineage.supersedes _ previous there)
    · exact refers _ (lineage.supersedes id later before)
  · intro id later present
    rcases cases_of present with ⟨-, rfl⟩ | ⟨-, rfl⟩ | ⟨-, before⟩
    · exact refers _ (lineage.supersededBy _ plan found)
    · exact refers _ (Or.inr ⟨plan, found, rfl⟩)
    · exact refers _ (lineage.supersededBy id later before)
  · intro id later present alive
    rcases cases_of present with ⟨-, rfl⟩ | ⟨-, rfl⟩ | ⟨-, before⟩
    · cases alive
    · cases alive
    · exact lineage.fresh id later before alive
  · intro id later present stands
    rcases cases_of present with ⟨-, rfl⟩ | ⟨-, rfl⟩ | ⟨differs, before⟩
    · exact ⟨fresh.2, rfl⟩
    · cases stands
    · exact absurd (lineage.single before there stands committed) differs

end Steps

/-! One call. -/

section Calls

variable {storage : Storage} {engine : Engine storage}

theorem Noted.place {plan next : Plan} {operation : Operation storage}
    (noted : Noted engine plan operation next) :
    SamePlace plan next := by
  cases noted with
  | current | behind => exact ⟨rfl, rfl, rfl, rfl, fun live => live⟩
  | unfounded => exact ⟨rfl, rfl, rfl, rfl, nofun⟩

theorem Change.place {plan next : Plan} {operation : Operation storage} {incumbent : PlanRef}
    (change : Change engine plan operation incumbent next) : SamePlace plan next := by
  have places : ∀ {live : isLive next.state = true → isLive plan.state = true}, SamePlace plan next := by
    intro live
    cases change <;> exact ⟨rfl, rfl, rfl, rfl, live⟩
  apply places
  intro live
  cases change with
  | validated declared => rw [declared]; rfl
  | outdated | contradicted | unsolvable | forbidden | unverified | committed | marked | retired =>
      cases live
  | solved solves => rw [solves.validated]; rfl
  | authorized gates =>
      rcases gates.proposed with proposed | degraded
      · rw [proposed]; rfl
      · rw [degraded]; rfl

/-- The one plan a call records. -/
theorem Change.lineage (lineage : Lineage engine.plans engine.incumbent) {id : PlanId} {plan later : Plan}
    {operation : Operation storage} {incumbent : PlanRef} (found : engine.plans.find? id = some plan)
    (change : Change engine plan operation incumbent later) :
    Lineage (engine.plans.insert id later) incumbent := by
  have place := change.place
  have key := lineage.keyed id plan found
  cases change with
  | committed commits alone =>
      -- Another committed plan would be the incumbent, and then be displaced.
      refine lineage.touch (samePlaces_insert found place) fun other held present committed => ?_
      rcases find?_insert_cases present with ⟨-, rfl⟩ | ⟨differs, before⟩
      · have live : isLive plan.state = true := by
          rw [commits.authorized]
          rfl
        exact ⟨(lineage.fresh id plan found live).2, rfl⟩
      · have leads := (lineage.leading other held before committed).2
        have named : engine.incumbent.id = other := by
          rw [leads]
          exact lineage.keyed other held before
        have displaced : engine.supersededByCommit plan = some held := by
          unfold supersededByCommit
          rw [named, key, if_pos ⟨lineage.valid other held before, differs⟩, before]
          exact if_pos committed
        rw [alone] at displaced
        cases displaced
  | retired edge =>
      refine lineage.touch (samePlaces_insert found place) fun other held present committed => ?_
      rcases find?_insert_cases present with ⟨-, rfl⟩ | ⟨differs, before⟩
      · cases committed
      · have leads := lineage.leading other held before committed
        refine ⟨leads.1, ?_⟩
        rw [if_neg]
        · exact leads.2
        · rw [leads.2, key]
          intro same
          exact differs ((lineage.keyed other held before).symm.trans same)
  | solved solves answered =>
      refine lineage.replace found place fun committed => ?_
      rcases (proposal_state engine plan _).1 with state | state | state <;> rw [state] at committed <;>
        cases committed
  | _ => exact lineage.replace found place nofun

/-- Every call keeps the chains, whether its appends succeed or not. What a recovery brings in has
to come in chains. -/
theorem call_lineage (lineage : Lineage engine.plans engine.incumbent) (operation : Operation storage)
    (recovered : operation = .recoverFromRepository → engine.plans.size = 0 →
      Lineage (engine.call operation).2.plans (engine.call operation).2.incumbent) :
    Lineage (engine.call operation).2.plans (engine.call operation).2.incumbent := by
  generalize answered : engine.call operation = result at recovered ⊢
  have effect := call_effect engine operation
  rw [answered] at effect
  cases effect with
  | refused | replayed | deferred | attached | detached | shared => exact lineage
  | noted target found noted =>
      rename_i id plan next _
      change Lineage (engine.plans.insert next.id next) engine.incumbent
      rw [noted.binding.id, lineage.keyed id plan found]
      refine lineage.replace found noted.place fun committed => ?_
      cases noted with
      | current | behind => exact committed
      | unfounded => cases committed
  | recorded target found frame change honest =>
      rename_i id plan next counted answer
      rw [record_frame]
      change Lineage (counted.plans.insert next.id next) counted.incumbent
      rw [frame.plans, change.binding.id, lineage.keyed id plan found]
      exact change.lineage lineage found
  | displaced found frame commits displaces settled =>
      rename_i ref intent plan previous counted
      obtain ⟨-, there, committed⟩ := supersededByCommit_eq displaces
      rw [recordBoth_frame]
      change Lineage ((counted.plans.insert previous.id _).insert plan.id _) counted.incumbent
      rw [frame.plans, settled]
      refine lineage.displace intent ?_ ?_ ?_ committed
      · rw [lineage.keyed _ plan found]
        exact found
      · rw [lineage.keyed _ previous there]
        exact there
      · rw [commits.authorized]
        rfl
  | superseded found there frame same committed different =>
      rename_i incumbentRef replacementRef incumbent replacement counted
      have one := lineage.single found there committed.1 committed.2
      refine absurd ?_ different
      rw [lineage.keyed _ incumbent found, lineage.keyed _ replacement there]
      exact one
  | submitted accepted =>
      rename_i raw
      refine demoteOutdated_keeps (fun current => Lineage current.plans current.incumbent) ?_ _
        (engine.withSnapshot (canonicalize raw)) lineage
      intro current id plan kept found advancing differs
      rw [record_frame]
      change Lineage (current.plans.insert plan.id _) current.incumbent
      rw [kept.keyed id plan found]
      exact kept.replace found ⟨rfl, rfl, rfl, rfl, nofun⟩ nofun
  | undeclared absent failed =>
      rw [persist_frame]
      exact lineage
  | declared live valid absent written =>
      rename_i request
      rw [persist_frame]
      exact lineage.declare valid absent rfl ⟨rfl, rfl⟩
  | recovered attached empty => exact recovered rfl empty

/-- What the chains say of the plans of an engine. -/
structure Chained (engine : Engine storage) : Prop where
  single : ∀ first second left right, engine.plans.find? first = some left →
    engine.plans.find? second = some right → left.state = .committed →
      right.state = .committed → first = second
  named : ∀ id plan, engine.plans.find? id = some plan → plan.state = .committed →
    engine.incumbent = plan.ref
  paired : ∀ first second left right, engine.plans.find? first = some left →
    engine.plans.find? second = some right → (left.supersedes = right.ref ↔ right.supersededBy = left.ref)
  alone : ∀ first second left right, engine.plans.find? first = some left →
    engine.plans.find? second = some right → left.supersedes = right.supersedes →
      left.supersedes ≠ default →
    first = second
  acyclic : ∀ id, ¬ Relation.TransGen (fun later earlier => older engine.plans later = some earlier) id id

theorem Lineage.target {plans : OrdMap PlanId Plan} {incumbent ref : PlanRef}
    (lineage : Lineage plans incumbent)
    (refers : Refers plans ref) {id : PlanId} (named : ref.target = some id) :
    ∃ plan, plans.find? id = some plan ∧ ref = plan.ref := by
  rcases refers with rfl | ⟨plan, found, same⟩
  · cases named
  · rw [Ref.target_of_valid (lineage.valid _ plan found), Option.some.injEq] at named
    rw [named] at found
    exact ⟨plan, found, same⟩

theorem Lineage.chained (lineage : Lineage engine.plans engine.incumbent) : Chained engine where
  single _ _ _ _ foundLeft foundRight committedLeft committedRight :=
    lineage.single foundLeft foundRight committedLeft committedRight
  named id plan found committed := (lineage.leading id plan found committed).2
  paired first second left right foundLeft foundRight := by
    have keyLeft := lineage.keyed first left foundLeft
    have keyRight := lineage.keyed second right foundRight
    have inverse := lineage.succession.inverse first second
    unfold older newer at inverse
    rw [foundLeft, foundRight, Option.bind_some, Option.bind_some] at inverse
    constructor
    · intro same
      have named : left.supersedes.target = some second := by
        rw [same, ← keyRight]
        apply Ref.target_of_valid
        rw [Plan.ref, keyRight]
        exact lineage.valid second right foundRight
      obtain ⟨plan, found, exact⟩ :=
        lineage.target (lineage.supersededBy second right foundRight) (inverse.1 named)
      rw [foundLeft, Option.some.injEq] at found
      rw [exact, found]
    · intro same
      have named : right.supersededBy.target = some first := by
        rw [same, ← keyLeft]
        apply Ref.target_of_valid
        rw [Plan.ref, keyLeft]
        exact lineage.valid first left foundLeft
      obtain ⟨plan, found, exact⟩ :=
        lineage.target (lineage.supersedes first left foundLeft) (inverse.2 named)
      rw [foundRight, Option.some.injEq] at found
      rw [exact, found]
  alone first second left right foundLeft foundRight same present := by
    rcases lineage.supersedes first left foundLeft with absent | ⟨plan, found, -⟩
    · exact absurd absent present
    · have named := Ref.target_of_valid (lineage.valid _ plan found)
      have earlier : older engine.plans first = some left.supersedes.id := by
        rw [older, foundLeft]
        exact named
      refine lineage.succession.injective earlier ?_
      rw [older, foundRight, Option.bind_some, ← same]
      exact named
  acyclic id := lineage.succession.acyclic id

/-- There are never two committed plans, so the call that takes two of them is always refused. -/
theorem Lineage.supersede_refused (lineage : Lineage engine.plans engine.incumbent)
    (incumbentRef replacementRef : PlanRef) :
    ∃ reason, (engine.supersede incumbentRef replacementRef).1 = .error reason ∧
      (engine.supersede incumbentRef replacementRef).2 = engine := by
  have effect := call_effect engine (.supersede incumbentRef replacementRef)
  generalize answered : engine.call (.supersede incumbentRef replacementRef) = result at effect
  have status : statusOf (engine.supersede incumbentRef replacementRef).1 = result.1 := by
    rw [← answered]
    rfl
  have left : (engine.supersede incumbentRef replacementRef).2 = result.2 := by
    rw [← answered]
    rfl
  cases effect with
  | refused reason =>
      refine ⟨reason, ?_, left⟩
      cases answer : (engine.supersede incumbentRef replacementRef).1 with
      | error other =>
          rw [answer] at status
          cases status
          rfl
      | ok plan =>
          rw [answer] at status
          cases status
  | noted target | recorded target => cases target
  | superseded found there frame same committed different =>
      have one := lineage.single found there committed.1 committed.2
      refine absurd ?_ different
      rw [lineage.keyed _ _ found, lineage.keyed _ _ there]
      exact one

theorem run_lineage (config : EngineConfig) {history : List (Operation storage)}
    (unrecovered : .recoverFromRepository ∉ history) :
    Lineage ((new config : Engine storage).run history).plans ((new config).run history).incumbent := by
  have along : Runs.Along apply (fun _ operation => operation ≠ .recoverFromRepository)
      (new config) history := by
    generalize (new config : Engine storage) = engine
    induction history generalizing engine with
    | nil => trivial
    | cons operation rest ih =>
        rw [List.mem_cons, not_or] at unrecovered
        exact ⟨fun same => unrecovered.1 same.symm, ih unrecovered.2 _⟩
  refine Runs.invariant (fun engine => Lineage engine.plans engine.incumbent) ?_ (Lineage.empty _) along
  intro engine operation lineage other
  rw [apply_eq_call]
  exact call_lineage lineage operation fun same => absurd same other

/-- In every run of a new engine, whatever appends fail: at most one plan is committed and the
incumbent reference names it, the two lineage references agree, supersession has no cycle, and no
call of `supersede` is ever accepted. -/
theorem run_chained (config : EngineConfig) (history : List (Operation storage))
    (unrecovered : .recoverFromRepository ∉ history) :
    Chained ((new config : Engine storage).run history) ∧
      ∀ incumbent replacement, ∃ reason,
        (((new config : Engine storage).run history).supersede incumbent replacement).1 = .error reason ∧
        (((new config : Engine storage).run history).supersede incumbent replacement).2 =
          (new config).run history := by
  have lineage := run_lineage config unrecovered
  exact ⟨lineage.chained, lineage.supersede_refused⟩

end Calls

/-- Two plans of the link fabric, of which the second displaces the first. -/
def displacingCalls : List (Operation durable) :=
  linkHistory none ++ twoPlans (named "plan-1") (named "plan-2") none ++
    [.commit ⟨named "plan-2", Gen.first⟩ linkIntent]

theorem run_chained_displacing :
    Chained ((new {}).run displacingCalls) ∧
      ∀ incumbent replacement, ∃ reason,
        (((new {}).run displacingCalls).supersede incumbent replacement).1 = .error reason ∧
        (((new {}).run displacingCalls).supersede incumbent replacement).2 =
          (new {}).run displacingCalls := by
  refine run_chained {} displacingCalls ?_
  simp [displacingCalls, linkHistory, twoPlans, committing, preparing]

end Engine

end TrafficFabric
