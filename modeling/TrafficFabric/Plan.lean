import TrafficFabric.Authority
import TrafficFabric.Churn

set_option autoImplicit false

namespace TrafficFabric

inductive PlanState
  | declared | validated | solving | proposed | authorized | committed | superseded | stale
  | degraded | rejected | retired
deriving DecidableEq, Repr, Inhabited

namespace PlanState

def code : PlanState → UInt16
  | declared => 0
  | validated => 1
  | solving => 2
  | proposed => 3
  | authorized => 4
  | committed => 5
  | superseded => 6
  | stale => 7
  | degraded => 8
  | rejected => 9
  | retired => 10

def toText : PlanState → Text
  | declared => text "DECLARED"
  | validated => text "VALIDATED"
  | solving => text "SOLVING"
  | proposed => text "PROPOSED"
  | authorized => text "AUTHORIZED"
  | committed => text "COMMITTED"
  | superseded => text "SUPERSEDED"
  | stale => text "STALE"
  | degraded => text "DEGRADED"
  | rejected => text "REJECTED"
  | retired => text "RETIRED"

end PlanState

/-- Orthogonal to the lifecycle state: whether the plan fits the current fabric. -/
inductive PlanApplicability
  | notEvaluated | current | revalidationRequired | stale | superseded | retired
deriving DecidableEq, Repr, Inhabited

def PlanApplicability.code : PlanApplicability → UInt16
  | notEvaluated => 0
  | current => 1
  | revalidationRequired => 2
  | stale => 3
  | superseded => 4
  | retired => 5

namespace PlanStateMachine

def isTerminal (state : PlanState) : Bool := state == .rejected || state == .retired

/-- Still advancing toward commit. -/
def isLive : PlanState → Bool
  | .declared | .validated | .solving | .proposed | .degraded | .authorized => true
  | .committed | .superseded | .stale | .rejected | .retired => false

def holdsAllocation : PlanState → Bool
  | .proposed | .degraded | .authorized | .committed | .superseded => true
  | .declared | .validated | .solving | .stale | .rejected | .retired => false

/-- The declared transitions; every other one is rejected. -/
def canTransition (source target : PlanState) : Bool :=
  if source = target then false
  else
    match source with
    | .declared => target == .validated || target == .rejected || target == .stale
    | .validated => target == .solving || target == .rejected || target == .stale
    | .solving => target == .proposed || target == .degraded || target == .rejected ||
        target == .stale
    | .proposed => target == .authorized || target == .rejected || target == .stale
    | .degraded => target == .authorized || target == .rejected || target == .stale
    | .authorized => target == .committed || target == .rejected || target == .stale
    | .committed => target == .superseded || target == .stale || target == .retired
    | .superseded => target == .retired || target == .stale
    | .stale => target == .retired
    | .rejected => false
    | .retired => false

/-- A terminal state has no way out. -/
theorem canTransition_of_isTerminal {source : PlanState} (terminal : isTerminal source = true)
    (target : PlanState) : canTransition source target = false := by
  cases source with
  | rejected => cases target <;> rfl
  | retired => cases target <;> rfl
  | _ => cases terminal

/-- Whatever is still advancing, and a committed plan, can become stale. -/
theorem canTransition_stale {source : PlanState}
    (advancing : isLive source = true ∨ source = .committed) : canTransition source .stale = true := by
  cases source with
  | superseded | stale | rejected | retired => simp [isLive] at advancing
  | _ => rfl

theorem canTransition_rejected {source : PlanState} (live : isLive source = true) :
    canTransition source .rejected = true := by
  cases source with
  | committed | superseded | stale | rejected | retired => cases live
  | _ => rfl

/-- Every edge towards a commit leaves a live state. -/
theorem isLive_of_canTransition {source target : PlanState}
    (edge : canTransition source target = true) (forward : isLive target = true ∨ target = .committed) :
    isLive source = true := by
  cases source with
  | committed | superseded | stale | rejected | retired =>
      cases target <;> simp [canTransition, isLive] at edge forward
  | _ => rfl

end PlanStateMachine

structure Plan where
  id : PlanId := default
  generation : Gen .plan := default
  state : PlanState := .declared
  applicability : PlanApplicability := .notEvaluated
  attempt : AttemptId := default
  attemptGeneration : Gen .attempt := default
  publisher : PublisherId := default
  publisherBoot : BootId := default
  coordinatorIncarnation : Gen .coordinatorIncarnation := default
  authority : AuthorityVector := default
  allocation : Allocation := default
  feasibility : FeasibilityResult := default
  churn : ChurnReport := default
  objectiveScore : Int := 0
  components : List ObjectiveComponent := []
  alternatives : List RejectedAlternative := []
  explanation : ExplanationId := default
  explanationDigest : Digest := default
  supersedes : PlanRef := default
  supersededBy : PlanRef := default
  commit : CommitId := default
  commitGeneration : Gen .commit := default
  committedTick : UInt64 := 0
  declaredTick : UInt64 := 0
  proposedTick : UInt64 := 0
deriving DecidableEq, Inhabited

def Plan.ref (plan : Plan) : PlanRef := ⟨plan.id, plan.generation⟩

end TrafficFabric
