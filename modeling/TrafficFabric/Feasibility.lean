import TrafficFabric.Canonical
import Mathlib.Data.Prod.Lex

set_option autoImplicit false

namespace TrafficFabric

inductive FeasibilityStatus
  | feasible | feasibleDegraded | infeasibleCapacity | infeasiblePolicy | infeasiblePathSet
  | infeasibleReservationConflict | staleInput | conflictingInput | unsupportedObjective
  | solverLimitReached
deriving DecidableEq, Repr, Inhabited

def FeasibilityStatus.code : FeasibilityStatus → UInt16
  | feasible => 0
  | feasibleDegraded => 1
  | infeasibleCapacity => 2
  | infeasiblePolicy => 3
  | infeasiblePathSet => 4
  | infeasibleReservationConflict => 5
  | staleInput => 6
  | conflictingInput => 7
  | unsupportedObjective => 8
  | solverLimitReached => 9

inductive ConstraintKind
  | resourceCapacity | policyUtilizationCap | demandMinimum | demandMaximum | pathEligibility
  | forbiddenPath | pathAuthorityGeneration | reservationObligation | reservationPreemptionDenied
  | failureDomainDiversity | affinity | antiAffinity | tenantPolicy | serviceClassPolicy
  | latencyBound | pathCostCeiling | pathCountLimit | staleGeneration | unknownDemandReference
  | duplicateIdentity | missingProvenance | structural | minCutCertificate
deriving DecidableEq, Repr, Inhabited

def ConstraintKind.code : ConstraintKind → Nat
  | .resourceCapacity => 0
  | .policyUtilizationCap => 1
  | .demandMinimum => 2
  | .demandMaximum => 3
  | .pathEligibility => 4
  | .forbiddenPath => 5
  | .pathAuthorityGeneration => 6
  | .reservationObligation => 7
  | .reservationPreemptionDenied => 8
  | .failureDomainDiversity => 9
  | .affinity => 10
  | .antiAffinity => 11
  | .tenantPolicy => 12
  | .serviceClassPolicy => 13
  | .latencyBound => 14
  | .pathCostCeiling => 15
  | .pathCountLimit => 16
  | .staleGeneration => 17
  | .unknownDemandReference => 18
  | .duplicateIdentity => 19
  | .missingProvenance => 20
  | .structural => 21
  | .minCutCertificate => 22

/-- A single binding reason with its exact quantities. -/
structure BindingConstraint where
  kind : ConstraintKind := .structural
  subject : Text := []
  demand : DemandId := default
  resource : ResourceId := default
  path : PathId := default
  required : Int := 0
  available : Int := 0
  slack : Int := 0
  detail : Text := []
deriving DecidableEq, Inhabited

/-- The fields the source orders constraints by; slack and detail take no part. -/
abbrev ConstraintKey := Nat ×ₗ Text ×ₗ Text ×ₗ Text ×ₗ Text ×ₗ Int ×ₗ Int

def BindingConstraint.key (constraint : BindingConstraint) : ConstraintKey :=
  toLex (constraint.kind.code, toLex (constraint.subject, toLex (constraint.demand.str,
    toLex (constraint.resource.str, toLex (constraint.path.str,
      toLex (constraint.required, constraint.available))))))

/-- What is promised of `std::sort`: constraints of one key may come in any order. -/
structure SortsConstraints (sort : List BindingConstraint → List BindingConstraint) : Prop where
  perm : ∀ constraints, (sort constraints).Perm constraints
  sorted : ∀ constraints, (sort constraints).Pairwise fun first second => first.key ≤ second.key

/-- `std::sort` followed by `std::unique` on whole values. -/
def sortConstraintsBy (sort : List BindingConstraint → List BindingConstraint)
    (constraints : List BindingConstraint) : List BindingConstraint :=
  (sort constraints).destutter (· ≠ ·)

/-- Constraints of one key stay in their order here. What depends on that order is stated for every sort. -/
def sortConstraints (constraints : List BindingConstraint) : List BindingConstraint :=
  sortConstraintsBy (stableSort BindingConstraint.key) constraints

theorem stableSort_sorts : SortsConstraints (stableSort BindingConstraint.key) :=
  ⟨stableSort_perm BindingConstraint.key, stableSort_sorted BindingConstraint.key⟩

theorem sortConstraints_eq_nil (constraints : List BindingConstraint) :
    sortConstraints constraints = [] ↔ constraints = [] := by
  unfold sortConstraints sortConstraintsBy
  rw [List.destutter_eq_nil]
  constructor
  · intro empty
    exact (empty ▸ stableSort_perm BindingConstraint.key constraints).nil_eq.symm
  · rintro rfl
    rfl

structure FeasibilityResult where
  status : FeasibilityStatus := .feasible
  summary : Text := []
  binding : List BindingConstraint := []
  bindingTruncated : Bool := false
deriving DecidableEq, Inhabited

/-- Canonical order, duplicate removal and size bound of the binding set. -/
def FeasibilityResult.canonicalizeBindingsBy (sort : List BindingConstraint → List BindingConstraint)
    (result : FeasibilityResult) : FeasibilityResult :=
  let bindings := sortConstraintsBy sort result.binding
  if Limits.maxExplanationEntries < bindings.length then
    { result with
      binding := bindings.take Limits.maxExplanationEntries
      bindingTruncated := true }
  else { result with binding := bindings }

def FeasibilityResult.canonicalizeBindings (result : FeasibilityResult) : FeasibilityResult :=
  result.canonicalizeBindingsBy (stableSort BindingConstraint.key)

structure ObjectiveComponent where
  term : ObjectiveTerm := .satisfyMinimums
  weight : Int := 0
  raw : Int := 0
  weighted : Int := 0
  unit : Text := []
deriving DecidableEq, Inhabited

structure RejectedAlternative where
  subject : Text := []
  reason : Text := []
  delta : Int := 0
  alternativeScore : Int := 0
deriving DecidableEq, Inhabited

def RejectedAlternative.key (alternative : RejectedAlternative) : Text ×ₗ Text :=
  toLex (alternative.reason, alternative.subject)

end TrafficFabric
