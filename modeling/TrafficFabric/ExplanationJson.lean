import Mathlib.Data.Fintype.Basic
import Mathlib.Tactic.FinCases
import TrafficFabric.Explain
import TrafficFabric.Lib.Json

set_option autoImplicit false

/- The JSON rendering of an explanation, and that a JSON reader finds in it every field that was
rendered, whatever bytes the texts of the explanation hold. -/
namespace TrafficFabric

open Json (Document)

/-! Texts of the enumerations and of a digest. -/

def PlanApplicability.toText : PlanApplicability → Text
  | .notEvaluated => text "NOT_EVALUATED"
  | .current => text "CURRENT"
  | .revalidationRequired => text "REVALIDATION_REQUIRED"
  | .stale => text "STALE"
  | .superseded => text "SUPERSEDED"
  | .retired => text "RETIRED"

def FeasibilityStatus.toText : FeasibilityStatus → Text
  | .feasible => text "FEASIBLE"
  | .feasibleDegraded => text "FEASIBLE_DEGRADED"
  | .infeasibleCapacity => text "INFEASIBLE_CAPACITY"
  | .infeasiblePolicy => text "INFEASIBLE_POLICY"
  | .infeasiblePathSet => text "INFEASIBLE_PATH_SET"
  | .infeasibleReservationConflict => text "INFEASIBLE_RESERVATION_CONFLICT"
  | .staleInput => text "STALE_INPUT"
  | .conflictingInput => text "CONFLICTING_INPUT"
  | .unsupportedObjective => text "UNSUPPORTED_OBJECTIVE"
  | .solverLimitReached => text "SOLVER_LIMIT_REACHED"

def ConstraintKind.toText : ConstraintKind → Text
  | .resourceCapacity => text "resource_capacity"
  | .policyUtilizationCap => text "policy_utilization_cap"
  | .demandMinimum => text "demand_minimum"
  | .demandMaximum => text "demand_maximum"
  | .pathEligibility => text "path_eligibility"
  | .forbiddenPath => text "forbidden_path"
  | .pathAuthorityGeneration => text "path_authority_generation"
  | .reservationObligation => text "reservation_obligation"
  | .reservationPreemptionDenied => text "reservation_preemption_denied"
  | .failureDomainDiversity => text "failure_domain_diversity"
  | .affinity => text "affinity"
  | .antiAffinity => text "anti_affinity"
  | .tenantPolicy => text "tenant_policy"
  | .serviceClassPolicy => text "service_class_policy"
  | .latencyBound => text "latency_bound"
  | .pathCostCeiling => text "path_cost_ceiling"
  | .pathCountLimit => text "path_count_limit"
  | .staleGeneration => text "stale_generation"
  | .unknownDemandReference => text "unknown_demand_reference"
  | .duplicateIdentity => text "duplicate_identity"
  | .missingProvenance => text "missing_provenance"
  | .structural => text "structural"
  | .minCutCertificate => text "min_cut_certificate"

/-- `kHexDigits`. -/
def hexDigit (nibble : UInt8) : UInt8 := (text "0123456789abcdef").getD nibble.toNat 0

def hexByte (value : UInt8) : Text := [hexDigit (value >>> 4), hexDigit (value &&& 0x0F)]

def Digest.hex (digest : Digest) : Text := digest.bytes.toList.flatMap hexByte

/-! Rendering. -/

def escapedByte (value : UInt8) : Text :=
  if value = 34 then text "\\\""
  else if value = 92 then text "\\\\"
  else if value = 10 then text "\\n"
  else if value = 13 then text "\\r"
  else if value = 9 then text "\\t"
  else if value < 0x20 then text "\\u00" ++ hexByte value
  else [value]

def appendEscaped (value : Text) : Text := text "\"" ++ value.flatMap escapedByte ++ text "\""

def appendKey (key : String) (first : Bool) : Text :=
  (if first then [] else text ",") ++ appendEscaped (text key) ++ text ":"

/-- A loop that renders the items with commas between them. -/
def appendItems {α : Type} (image : α → Text) : Bool → List α → Text
  | _, [] => []
  | first, item :: items => (if first then [] else text ",") ++ image item ++ appendItems image false items

/-- The rendering of `first`, in brackets. -/
def appendList {α : Type} (image : α → Text) (items : List α) : Text :=
  text "[" ++ appendItems image true items ++ text "]"

def generationJson {kind : GenKind} (generation : Gen kind) : Text := decimal generation.value.toNat

def refJson {kind : IdKind} {generation : GenKind} (ref : Ref kind generation) : Text :=
  text "\x7b" ++ appendKey "id" true ++ appendEscaped ref.id.str ++
    appendKey "generation" false ++ generationJson ref.generation ++ text "\x7d"

def digestsJson (authority : AuthorityVector) : Text :=
  text "\x7b" ++ appendKey "demand_set" true ++ appendEscaped authority.demandSetDigest.hex ++
    appendKey "candidate_set" false ++ appendEscaped authority.candidateSetDigest.hex ++
    appendKey "resource_catalog" false ++ appendEscaped authority.resourceCatalogDigest.hex ++
    appendKey "reservation_set" false ++ appendEscaped authority.reservationSetDigest.hex ++
    appendKey "policy" false ++ appendEscaped authority.policyDigest.hex ++
    appendKey "objective" false ++ appendEscaped authority.objectiveDigest.hex ++ text "\x7d"

def authorityJson (authority : AuthorityVector) : Text :=
  text "\x7b" ++ appendKey "fabric_epoch" true ++ generationJson authority.fabricEpoch ++
    appendKey "topology_generation" false ++ generationJson authority.topologyGeneration ++
    appendKey "link_state_generation" false ++ generationJson authority.linkStateGeneration ++
    appendKey "path_authority_generation" false ++ generationJson authority.pathAuthorityGeneration ++
    appendKey "failure_domain_generation" false ++ generationJson authority.failureDomainGeneration ++
    appendKey "capacity_snapshot" false ++ refJson authority.capacity ++
    appendKey "reservation_snapshot" false ++ refJson authority.reservations ++
    appendKey "policy" false ++ refJson authority.policy ++
    appendKey "objective_profile" false ++ refJson authority.objective ++
    appendKey "candidate_set" false ++ refJson authority.candidateSet ++
    appendKey "digests" false ++ digestsJson authority ++ text "\x7d"

def constraintJson (constraint : BindingConstraint) : Text :=
  text "\x7b" ++ appendKey "kind" true ++ appendEscaped constraint.kind.toText ++
    appendKey "subject" false ++ appendEscaped constraint.subject ++
    appendKey "required" false ++ decimal constraint.required ++
    appendKey "available" false ++ decimal constraint.available ++
    appendKey "slack" false ++ decimal constraint.slack ++
    appendKey "detail" false ++ appendEscaped constraint.detail ++ text "\x7d"

def componentJson (component : ObjectiveComponent) : Text :=
  text "\x7b" ++ appendKey "term" true ++ appendEscaped component.term.toText ++
    appendKey "weight" false ++ decimal component.weight ++
    appendKey "raw" false ++ decimal component.raw ++
    appendKey "weighted" false ++ decimal component.weighted ++
    appendKey "unit" false ++ appendEscaped component.unit ++ text "\x7d"

def shareJson (share : PathShare) : Text :=
  text "\x7b" ++ appendKey "path" true ++ appendEscaped share.path.str ++
    appendKey "generation" false ++ generationJson share.generation ++
    appendKey "granted" false ++ decimal share.granted ++
    appendKey "reserved" false ++ decimal share.reserved ++
    appendKey "delta" false ++ decimal share.deltaFromIncumbent ++ text "\x7d"

def entryJson (entry : DemandAllocation) : Text :=
  text "\x7b" ++ appendKey "demand" true ++ appendEscaped entry.demand.str ++
    appendKey "minimum" false ++ decimal entry.minimum ++
    appendKey "desired" false ++ decimal entry.desired ++
    appendKey "maximum" false ++ decimal entry.maximum ++
    appendKey "granted" false ++ decimal entry.granted ++
    appendKey "reserved" false ++ decimal entry.reserved ++
    appendKey "effective" false ++ decimal entry.effective ++
    appendKey "shortfall_minimum" false ++ decimal entry.shortfallAgainstMinimum ++
    appendKey "shortfall_desired" false ++ decimal entry.shortfallAgainstDesired ++
    appendKey "shares" false ++ appendList shareJson entry.shares ++ text "\x7d"

def resourceJson (resource : ResourceUtilization) : Text :=
  text "\x7b" ++ appendKey "resource" true ++ appendEscaped resource.resource.str ++
    appendKey "usable" false ++ decimal resource.usableCapacity ++
    appendKey "committed" false ++ decimal resource.committedLoad ++
    appendKey "reserved" false ++ decimal resource.reserved ++
    appendKey "allocated" false ++ decimal resource.allocated ++
    appendKey "headroom" false ++ decimal resource.headroom ++
    appendKey "utilization_permille" false ++ decimal resource.utilizationPermille ++ text "\x7d"

def churnJson (churn : ChurnReport) : Text :=
  text "\x7b" ++ appendKey "decision" true ++ appendEscaped churn.decision.toText ++
    appendKey "incumbent_score" false ++ decimal churn.incumbentScore ++
    appendKey "proposal_score" false ++ decimal churn.proposalScore ++
    appendKey "improvement_permille" false ++ decimal churn.improvementPermille ++
    appendKey "required_improvement_permille" false ++ decimal churn.requiredImprovementPermille ++
    appendKey "moved_bandwidth" false ++ decimal churn.movedBandwidth ++
    appendKey "moved_permille" false ++ decimal churn.movedPermille ++
    appendKey "demands_changed" false ++ decimal churn.demandsChanged.toNat ++
    appendKey "paths_added" false ++ decimal churn.pathsAdded.toNat ++
    appendKey "paths_removed" false ++ decimal churn.pathsRemoved.toNat ++
    appendKey "failure_domains_changed" false ++ decimal churn.failureDomainsChanged.toNat ++
    appendKey "operational_risk_permille" false ++ decimal churn.operationalRiskPermille ++
    appendKey "rationale" false ++ appendEscaped churn.rationale ++ text "\x7d"

def alternativeJson (alternative : RejectedAlternative) : Text :=
  text "\x7b" ++ appendKey "subject" true ++ appendEscaped alternative.subject ++
    appendKey "reason" false ++ appendEscaped alternative.reason ++
    appendKey "delta" false ++ decimal alternative.delta ++ text "\x7d"

namespace Explanation

/-- `to_json` writes "verified" as a constant, and never true. -/
def feasibilityJson (explanation : Explanation) : Text :=
  text "\x7b" ++ appendKey "status" true ++ appendEscaped explanation.feasibility.status.toText ++
    appendKey "summary" false ++ appendEscaped explanation.feasibility.summary ++
    appendKey "verified" false ++ text "false" ++
    appendKey "binding" false ++ appendList constraintJson explanation.bindingConstraints ++ text "\x7d"

def objectiveJson (explanation : Explanation) : Text :=
  text "\x7b" ++ appendKey "profile_id" true ++ appendEscaped explanation.objective.id.str ++
    appendKey "profile_generation" false ++ generationJson explanation.objective.generation ++
    appendKey "total_score" false ++ decimal explanation.totalScore ++
    appendKey "components" false ++ appendList componentJson explanation.components ++ text "\x7d"

def toJson (explanation : Explanation) : Text :=
  text "\x7b" ++ appendKey "explanation_id" true ++ appendEscaped explanation.id.str ++
    appendKey "plan_id" false ++ appendEscaped explanation.plan.id.str ++
    appendKey "plan_generation" false ++ generationJson explanation.plan.generation ++
    appendKey "state" false ++ appendEscaped explanation.state.toText ++
    appendKey "applicability" false ++ appendEscaped explanation.applicability.toText ++
    appendKey "authority_digest" false ++ appendEscaped explanation.authority.digest.hex ++
    appendKey "authority" false ++ authorityJson explanation.authority ++
    appendKey "feasibility" false ++ explanation.feasibilityJson ++
    appendKey "objective" false ++ explanation.objectiveJson ++
    appendKey "allocations" false ++ appendList entryJson explanation.allocations ++
    appendKey "saturated_resources" false ++ appendList resourceJson explanation.saturatedResources ++
    appendKey "churn" false ++ churnJson explanation.churn ++
    appendKey "policy_exclusions" false ++ appendList appendEscaped explanation.policyExclusions ++
    appendKey "alternatives" false ++ appendList alternativeJson explanation.alternatives ++
    appendKey "notes" false ++ appendList appendEscaped explanation.notes ++
    appendKey "truncated" false ++ text (if explanation.truncated then "true" else "false") ++ text "\x7d"

end Explanation

/-! What a reader finds. -/

theorem decimal_numeral (value : Int) : decimal value = Json.numeral value := by
  cases value with
  | ofNat value =>
      change (value.repr.toList.map fun char => char.toNat.toUInt8) = Json.natural value
      rw [Nat.repr, String.toList_ofList]
      rfl
  | negSucc value =>
      change (("-" ++ (value + 1).repr).toList.map fun char => char.toNat.toUInt8) =
        45 :: Json.natural (value + 1)
      rw [Nat.repr, String.toList_append, List.map_append, String.toList_ofList, String.toList_ofList]
      rfl

theorem scan_control (value : Fin 32) (rest : Text) :
    Json.scan .plain (escapedByte (UInt8.ofNat value) ++ rest) =
      (Json.scan .plain rest).map (Json.push (UInt8.ofNat value)) := by
  fin_cases value <;> rfl

theorem escapedByte_legal : Json.Legal escapedByte := by
  intro value rest
  by_cases control : value < 0x20
  · have scanned := scan_control ⟨value.toNat, control⟩ rest
    rw [show UInt8.ofNat value.toNat = value from UInt8.ofNat_toNat] at scanned
    exact scanned
  by_cases quote : value = 34
  · subst quote
    rfl
  by_cases backslash : value = 92
  · subst backslash
    rfl
  have other : value ≠ 10 ∧ value ≠ 13 ∧ value ≠ 9 := by
    refine ⟨?_, ?_, ?_⟩ <;>
    · rintro rfl
      exact control (by decide)
  unfold escapedByte
  rw [if_neg quote, if_neg backslash, if_neg other.1, if_neg other.2.1, if_neg other.2.2, if_neg control,
    List.singleton_append, Json.scan, if_neg quote, if_neg backslash, if_neg control]

theorem appendKey_first (key : String) :
    appendKey key true = Json.quoted escapedByte (text key) ++ [58] := rfl

theorem appendKey_next (key : String) :
    appendKey key false = 44 :: (Json.quoted escapedByte (text key) ++ [58]) := rfl

theorem appendItems_write {α : Type} {image : α → Text} {document : α → Document}
    (same : ∀ item, image item = Json.write escapedByte (document item)) (first : Bool) (items : List α) :
    appendItems image first items = Json.writeItems escapedByte first (items.map document) := by
  induction items generalizing first with
  | nil => rfl
  | cons item items ih =>
      rw [appendItems, List.map_cons, Json.writeItems, same, ih, List.append_assoc]
      rfl

theorem appendList_write {α : Type} {image : α → Text} {document : α → Document}
    (same : ∀ item, image item = Json.write escapedByte (document item)) (items : List α) :
    appendList image items = Json.write escapedByte (.array (items.map document)) := by
  unfold appendList
  rw [appendItems_write same, Json.write]
  rfl

/-! The documents. -/

def generationDocument {kind : GenKind} (generation : Gen kind) : Document := .number generation.value.toNat

def Digest.document (digest : Digest) : Document := .string digest.hex

def Ref.document {kind : IdKind} {generation : GenKind} (ref : Ref kind generation) : Document :=
  .object [(text "id", .string ref.id.str), (text "generation", generationDocument ref.generation)]

def AuthorityVector.digests (authority : AuthorityVector) : Document :=
  .object
    [(text "demand_set", authority.demandSetDigest.document),
      (text "candidate_set", authority.candidateSetDigest.document),
      (text "resource_catalog", authority.resourceCatalogDigest.document),
      (text "reservation_set", authority.reservationSetDigest.document),
      (text "policy", authority.policyDigest.document),
        (text "objective", authority.objectiveDigest.document)]

def AuthorityVector.document (authority : AuthorityVector) : Document :=
  .object
    [(text "fabric_epoch", generationDocument authority.fabricEpoch),
      (text "topology_generation", generationDocument authority.topologyGeneration),
      (text "link_state_generation", generationDocument authority.linkStateGeneration),
      (text "path_authority_generation", generationDocument authority.pathAuthorityGeneration),
      (text "failure_domain_generation", generationDocument authority.failureDomainGeneration),
      (text "capacity_snapshot", authority.capacity.document),
      (text "reservation_snapshot", authority.reservations.document),
        (text "policy", authority.policy.document),
      (text "objective_profile", authority.objective.document),
      (text "candidate_set", authority.candidateSet.document), (text "digests", authority.digests)]

def BindingConstraint.document (constraint : BindingConstraint) : Document :=
  .object
    [(text "kind", .string constraint.kind.toText), (text "subject", .string constraint.subject),
      (text "required", .number constraint.required), (text "available", .number constraint.available),
      (text "slack", .number constraint.slack), (text "detail", .string constraint.detail)]

def ObjectiveComponent.document (component : ObjectiveComponent) : Document :=
  .object
    [(text "term", .string component.term.toText), (text "weight", .number component.weight),
      (text "raw", .number component.raw), (text "weighted", .number component.weighted),
      (text "unit", .string component.unit)]

def PathShare.document (share : PathShare) : Document :=
  .object
    [(text "path", .string share.path.str), (text "generation", generationDocument share.generation),
      (text "granted", .number share.granted), (text "reserved", .number share.reserved),
      (text "delta", .number share.deltaFromIncumbent)]

def DemandAllocation.document (entry : DemandAllocation) : Document :=
  .object
    [(text "demand", .string entry.demand.str), (text "minimum", .number entry.minimum),
      (text "desired", .number entry.desired), (text "maximum", .number entry.maximum),
      (text "granted", .number entry.granted), (text "reserved", .number entry.reserved),
      (text "effective", .number entry.effective),
      (text "shortfall_minimum", .number entry.shortfallAgainstMinimum),
      (text "shortfall_desired", .number entry.shortfallAgainstDesired),
      (text "shares", .array (entry.shares.map PathShare.document))]

def ResourceUtilization.document (resource : ResourceUtilization) : Document :=
  .object
    [(text "resource", .string resource.resource.str), (text "usable", .number resource.usableCapacity),
      (text "committed", .number resource.committedLoad), (text "reserved", .number resource.reserved),
      (text "allocated", .number resource.allocated), (text "headroom", .number resource.headroom),
      (text "utilization_permille", .number resource.utilizationPermille)]

def ChurnReport.document (churn : ChurnReport) : Document :=
  .object
    [(text "decision", .string churn.decision.toText),
      (text "incumbent_score", .number churn.incumbentScore),
      (text "proposal_score", .number churn.proposalScore),
      (text "improvement_permille", .number churn.improvementPermille),
      (text "required_improvement_permille", .number churn.requiredImprovementPermille),
      (text "moved_bandwidth", .number churn.movedBandwidth),
        (text "moved_permille", .number churn.movedPermille),
      (text "demands_changed", .number churn.demandsChanged.toNat),
      (text "paths_added", .number churn.pathsAdded.toNat),
        (text "paths_removed", .number churn.pathsRemoved.toNat),
      (text "failure_domains_changed", .number churn.failureDomainsChanged.toNat),
      (text "operational_risk_permille", .number churn.operationalRiskPermille),
      (text "rationale", .string churn.rationale)]

def RejectedAlternative.document (alternative : RejectedAlternative) : Document :=
  .object
    [(text "subject", .string alternative.subject), (text "reason", .string alternative.reason),
      (text "delta", .number alternative.delta)]

namespace Explanation

def feasibilityDocument (explanation : Explanation) : Document :=
  .object
    [(text "status", .string explanation.feasibility.status.toText),
      (text "summary", .string explanation.feasibility.summary), (text "verified", .boolean false),
      (text "binding", .array (explanation.bindingConstraints.map BindingConstraint.document))]

def objectiveDocument (explanation : Explanation) : Document :=
  .object
    [(text "profile_id", .string explanation.objective.id.str),
      (text "profile_generation", generationDocument explanation.objective.generation),
      (text "total_score", .number explanation.totalScore),
      (text "components", .array (explanation.components.map ObjectiveComponent.document))]

def document (explanation : Explanation) : Document :=
  .object
    [(text "explanation_id", .string explanation.id.str), (text "plan_id", .string explanation.plan.id.str),
      (text "plan_generation", generationDocument explanation.plan.generation),
      (text "state", .string explanation.state.toText),
      (text "applicability", .string explanation.applicability.toText),
      (text "authority_digest", explanation.authority.digest.document),
      (text "authority", explanation.authority.document),
        (text "feasibility", explanation.feasibilityDocument),
      (text "objective", explanation.objectiveDocument),
      (text "allocations", .array (explanation.allocations.map DemandAllocation.document)),
      (text "saturated_resources",
        .array (explanation.saturatedResources.map ResourceUtilization.document)),
      (text "churn", explanation.churn.document),
      (text "policy_exclusions", .array (explanation.policyExclusions.map Document.string)),
      (text "alternatives", .array (explanation.alternatives.map RejectedAlternative.document)),
      (text "notes", .array (explanation.notes.map Document.string)),
      (text "truncated", .boolean explanation.truncated)]

end Explanation

/-! Every rendering is the text of its document. -/

section Renderings

/-- How members are laid out. -/
theorem writeMembers_nil (first : Bool) : Json.writeMembers escapedByte first [] = [] := rfl

theorem writeMembers_first (key : String) (value : Document) (rest : List (Text × Document)) :
    Json.writeMembers escapedByte true ((text key, value) :: rest) =
      appendKey key true ++ Json.write escapedByte value ++ Json.writeMembers escapedByte false rest := by
  rw [Json.writeMembers, appendKey_first, List.append_assoc, List.append_assoc]
  rfl

theorem writeMembers_next (key : String) (value : Document) (rest : List (Text × Document)) :
    Json.writeMembers escapedByte false ((text key, value) :: rest) =
      appendKey key false ++ Json.write escapedByte value ++ Json.writeMembers escapedByte false rest := by
  rw [Json.writeMembers, appendKey_next, List.append_assoc, List.cons_append, List.append_assoc]
  rfl

theorem object_write (members : List (Text × Document)) : Json.write escapedByte (.object members) =
    text "\x7b" ++ Json.writeMembers escapedByte true members ++ text "\x7d" := by
  rw [Json.write]
  rfl

theorem string_write (value : Text) : Json.write escapedByte (.string value) = appendEscaped value := by
  rw [Json.write]
  rfl

theorem number_write (value : Int) : Json.write escapedByte (.number value) = decimal value := by
  rw [Json.write, decimal_numeral]

theorem generation_write {kind : GenKind} (generation : Gen kind) :
    Json.write escapedByte (generationDocument generation) = generationJson generation := number_write _

theorem digest_write (digest : Digest) :
    Json.write escapedByte digest.document = appendEscaped digest.hex :=
  string_write _

theorem boolean_write (value : Bool) :
    Json.write escapedByte (.boolean value) = text (if value then "true" else "false") := by
  cases value <;> rfl

theorem strings_write (values : List Text) :
    Json.write escapedByte (.array (values.map Document.string)) = appendList appendEscaped values :=
  (appendList_write (fun value => (string_write value).symm) values).symm

theorem refJson_write {kind : IdKind} {generation : GenKind} (ref : Ref kind generation) :
    Json.write escapedByte ref.document = refJson ref := by
  unfold refJson Ref.document
  simp only [object_write, writeMembers_first, writeMembers_next, writeMembers_nil,
    string_write, generation_write,
    List.append_nil, List.append_assoc]

theorem digestsJson_write (authority : AuthorityVector) :
    Json.write escapedByte authority.digests = digestsJson authority := by
  unfold digestsJson AuthorityVector.digests
  simp only [object_write, writeMembers_first, writeMembers_next, writeMembers_nil, digest_write,
    List.append_nil, List.append_assoc]

theorem authorityJson_write (authority : AuthorityVector) :
    Json.write escapedByte authority.document = authorityJson authority := by
  unfold authorityJson AuthorityVector.document
  simp only [refJson_write, digestsJson_write, object_write, writeMembers_first, writeMembers_next,
    writeMembers_nil, generation_write, List.append_nil, List.append_assoc]

theorem constraintJson_write (constraint : BindingConstraint) :
    Json.write escapedByte constraint.document = constraintJson constraint := by
  unfold constraintJson BindingConstraint.document
  simp only [object_write, writeMembers_first, writeMembers_next, writeMembers_nil,
    string_write, number_write,
    List.append_nil, List.append_assoc]

theorem componentJson_write (component : ObjectiveComponent) :
    Json.write escapedByte component.document = componentJson component := by
  unfold componentJson ObjectiveComponent.document
  simp only [object_write, writeMembers_first, writeMembers_next, writeMembers_nil,
    string_write, number_write,
    List.append_nil, List.append_assoc]

theorem shareJson_write (share : PathShare) : Json.write escapedByte share.document = shareJson share := by
  unfold shareJson PathShare.document
  simp only [object_write, writeMembers_first, writeMembers_next, writeMembers_nil,
    string_write, number_write,
    generation_write, List.append_nil, List.append_assoc]

theorem entryJson_write (entry : DemandAllocation) :
    Json.write escapedByte entry.document = entryJson entry := by
  have shares := appendList_write (fun share => (shareJson_write share).symm) entry.shares
  unfold entryJson DemandAllocation.document
  simp only [shares, object_write, writeMembers_first, writeMembers_next, writeMembers_nil, string_write,
    number_write, List.append_nil, List.append_assoc]

theorem resourceJson_write (resource : ResourceUtilization) :
    Json.write escapedByte resource.document = resourceJson resource := by
  unfold resourceJson ResourceUtilization.document
  simp only [object_write, writeMembers_first, writeMembers_next, writeMembers_nil,
    string_write, number_write,
    List.append_nil, List.append_assoc]

theorem churnJson_write (churn : ChurnReport) :
    Json.write escapedByte churn.document = churnJson churn := by
  unfold churnJson ChurnReport.document
  simp only [object_write, writeMembers_first, writeMembers_next, writeMembers_nil,
    string_write, number_write,
    List.append_nil, List.append_assoc]

theorem alternativeJson_write (alternative : RejectedAlternative) :
    Json.write escapedByte alternative.document = alternativeJson alternative := by
  unfold alternativeJson RejectedAlternative.document
  simp only [object_write, writeMembers_first, writeMembers_next, writeMembers_nil,
    string_write, number_write,
    List.append_nil, List.append_assoc]

namespace Explanation

theorem feasibilityJson_write (explanation : Explanation) :
    Json.write escapedByte explanation.feasibilityDocument = explanation.feasibilityJson := by
  have binding := appendList_write (fun constraint => (constraintJson_write constraint).symm)
    explanation.bindingConstraints
  unfold feasibilityJson feasibilityDocument
  simp only [boolean_write, if_false, Bool.false_eq_true, binding, object_write, writeMembers_first,
    writeMembers_next, writeMembers_nil, string_write, List.append_nil, List.append_assoc]

theorem objectiveJson_write (explanation : Explanation) :
    Json.write escapedByte explanation.objectiveDocument = explanation.objectiveJson := by
  have components := appendList_write (fun component => (componentJson_write component).symm)
    explanation.components
  unfold objectiveJson objectiveDocument
  simp only [components, object_write, writeMembers_first, writeMembers_next,
    writeMembers_nil, string_write,
    number_write, generation_write, List.append_nil, List.append_assoc]

theorem toJson_write (explanation : Explanation) :
    Json.write escapedByte explanation.document = explanation.toJson := by
  have allocations := appendList_write (fun entry => (entryJson_write entry).symm) explanation.allocations
  have resources := appendList_write (fun resource => (resourceJson_write resource).symm)
    explanation.saturatedResources
  have alternatives := appendList_write (fun alternative => (alternativeJson_write alternative).symm)
    explanation.alternatives
  unfold toJson document
  simp only [allocations, resources, alternatives, authorityJson_write, churnJson_write,
    feasibilityJson_write,
    objectiveJson_write, strings_write, boolean_write, object_write, writeMembers_first, writeMembers_next,
    writeMembers_nil, string_write, generation_write, digest_write, List.append_nil, List.append_assoc]

/-- Whatever bytes its texts hold, a JSON reader finds in the rendering of an explanation exactly its
document: no text can close its string or add a field, and no number is cut short. -/
theorem read_toJson (explanation : Explanation) :
    Json.read explanation.toJson = some explanation.document := by
  rw [← toJson_write]
  exact Json.read_write escapedByte_legal explanation.document

end Explanation

end Renderings

end TrafficFabric
