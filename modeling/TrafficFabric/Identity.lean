import Mathlib.Data.List.Lex
import Mathlib.Order.Basic

set_option autoImplicit false

namespace TrafficFabric

/-! Bounds of the public contract (`limits.hpp`). -/
namespace Limits

def maxDemands : Nat := 4096
def maxPathsPerDemand : Nat := 64
def maxTotalCandidatePaths : Nat := 65536
def maxResources : Nat := 65536
def maxResourcesPerPath : Nat := 256
def maxReservations : Nat := 65536
def maxDomainsPerPath : Nat := 16
def maxConstraintRefs : Nat := 64
def maxExplanationEntries : Nat := 128
def maxAlternatives : Nat := 32
def maxAuditRecords : Nat := 1000000
def maxLineageDepth : Nat := 1024
def maxNameLength : Nat := 96
def maxTextLength : Nat := 512
def maxFramePayload : Nat := 16 * 1024 * 1024
def maxFences : Nat := 4096
def maxJournalRecords : Nat := 1000000
def maxSolverIterations : Nat := 4000000
def maxMaxUtilizationProbes : Nat := 64
def maxCertificateEdges : Nat := 2000000
def maxCertificateNodes : Nat := 200000
def maxBandwidth : Int := 1000000000000000
def maxCost : Int := 1000000000
def maxLatencyMicros : Int := 1000000000000

end Limits

instance instLinearOrderUInt8 : LinearOrder UInt8 where
  le_refl := fun byte => UInt8.le_refl byte
  le_trans := fun _ _ _ => UInt8.le_trans
  le_antisymm := fun _ _ => UInt8.le_antisymm
  le_total := UInt8.le_total
  lt_iff_le_not_ge := fun first second => by
    simp only [UInt8.lt_iff_toNat_lt, UInt8.le_iff_toNat_le]
    omega
  toDecidableLE := inferInstance
  toDecidableEq := inferInstance
  toDecidableLT := inferInstance

/-- The bytes of a `std::string`. The order of lists is the byte-wise order the
source compares strings with. -/
abbrev Text := List UInt8

/-- A string literal of the source. -/
def text (literal : String) : Text := literal.toList.map (fun char => char.toNat.toUInt8)

/-- Decimal rendering of an integer, `std::to_string`. -/
def decimal (value : Int) : Text := text (toString value)

def byte (char : Char) : UInt8 := char.toNat.toUInt8

def isNameChar (c : UInt8) : Bool :=
  (byte 'A' ≤ c && c ≤ byte 'Z') || (byte 'a' ≤ c && c ≤ byte 'z') ||
    (byte '0' ≤ c && c ≤ byte '9') ||
    [byte '.', byte '_', byte '-', byte ':', byte '/', byte '+'].contains c

def isSeparator (c : UInt8) : Bool :=
  [byte '.', byte '-', byte ':', byte '/', byte '+', byte '_'].contains c

/-- The accepted alphabet of entity names, with no leading or trailing separator. -/
def isValidName (value : Text) : Bool :=
  !value.isEmpty && decide (value.length ≤ Limits.maxNameLength) &&
    value != text "." && value != text ".." && value.all isNameChar &&
    !(value.head?.any isSeparator) && !(value.getLast?.any isSeparator)

inductive IdKind
  | plan | demand | candidateSet | path | resource | capacitySnapshot | reservationSnapshot
  | reservation | policy | objectiveProfile | failureDomain | tenant | serviceClass | explanation
  | publisher | worker | attempt | commit | sourceSystem | coordinator
deriving DecidableEq, Repr

/-- A strongly typed identity. Only the empty default and values accepted by
`isValidName` can be built, as in the source where `parse` is the only way in. -/
structure Id (kind : IdKind) where
  value : Text
  canonical : value = [] ∨ isValidName value = true

namespace Id

variable {kind : IdKind}

@[ext] theorem ext {first second : Id kind} (same : first.value = second.value) :
    first = second := by
  cases first
  cases second
  simpa using same

/-- Identities compare as their byte strings do. -/
instance : LinearOrder (Id kind) where
  le first second := first.value ≤ second.value
  lt first second := first.value < second.value
  le_refl first := le_refl first.value
  le_trans _ _ _ := le_trans
  lt_iff_le_not_ge _ _ := lt_iff_le_not_ge
  le_antisymm _ _ below above := Id.ext (le_antisymm below above)
  le_total first second := le_total first.value second.value
  toDecidableLE first second := inferInstanceAs (Decidable (first.value ≤ second.value))
  toDecidableLT first second := inferInstanceAs (Decidable (first.value < second.value))
  toDecidableEq first second :=
    decidable_of_iff (first.value = second.value) ⟨Id.ext, congrArg Id.value⟩

/-- Membership in a list is decided by the comparison of the order. -/
instance instLawfulBEq : LawfulBEq (Id kind) := inferInstance

theorem canonical_of_valid {value : Text} (valid : isValidName value = true) :
    value = [] ∨ isValidName value = true := Or.inr valid

/-- The default-constructed, absent identity. -/
def none : Id kind := ⟨[], Or.inl rfl⟩

instance : Inhabited (Id kind) := ⟨none⟩

def parse (value : Text) : Option (Id kind) :=
  if valid : isValidName value = true then some ⟨value, Or.inr valid⟩ else Option.none

def valid (id : Id kind) : Bool := !id.value.isEmpty

def str (id : Id kind) : Text := id.value

theorem length_le (id : Id kind) : id.value.length ≤ Limits.maxNameLength := by
  rcases id.canonical with empty | accepted
  · simp [empty]
  · simp only [isValidName, Bool.and_eq_true, decide_eq_true_eq] at accepted
    exact accepted.1.1.1.1.1.2

end Id

abbrev PlanId := Id .plan
abbrev DemandId := Id .demand
abbrev CandidateSetId := Id .candidateSet
abbrev PathId := Id .path
abbrev ResourceId := Id .resource
abbrev CapacitySnapshotId := Id .capacitySnapshot
abbrev ReservationSnapshotId := Id .reservationSnapshot
abbrev ReservationId := Id .reservation
abbrev PolicyId := Id .policy
abbrev ObjectiveProfileId := Id .objectiveProfile
abbrev FailureDomainId := Id .failureDomain
abbrev TenantId := Id .tenant
abbrev ServiceClassId := Id .serviceClass
abbrev ExplanationId := Id .explanation
abbrev PublisherId := Id .publisher
abbrev AttemptId := Id .attempt
abbrev CommitId := Id .commit
abbrev SourceSystemId := Id .sourceSystem
abbrev CoordinatorId := Id .coordinator

inductive GenKind
  | plan | demand | candidateSet | path | capacitySnapshot | reservationSnapshot | reservation
  | policy | objectiveProfile | failureDomain | resource | commit | attempt | topology | linkState
  | pathAuthority | fabricEpoch | coordinatorIncarnation
deriving DecidableEq, Repr

/-- A monotone generation counter; zero is reserved for "absent". -/
structure Gen (kind : GenKind) where
  value : UInt64
deriving DecidableEq

namespace Gen

variable {kind : GenKind}

instance : Inhabited (Gen kind) := ⟨⟨0⟩⟩

def first : Gen kind := ⟨1⟩

def parse (value : UInt64) : Option (Gen kind) := if value = 0 then none else some ⟨value⟩

def valid (generation : Gen kind) : Bool := generation.value != 0

end Gen

/-- An identity together with the exact generation it is bound at. -/
structure Ref (id : IdKind) (generation : GenKind) where
  id : Id id
  generation : Gen generation
deriving DecidableEq

namespace Ref

variable {id : IdKind} {generation : GenKind}

instance : Inhabited (Ref id generation) := ⟨⟨default, default⟩⟩

def valid (ref : Ref id generation) : Bool := ref.id.valid && ref.generation.valid

end Ref

abbrev CandidateSetRef := Ref .candidateSet .candidateSet
abbrev PathAuthorityRef := Ref .path .pathAuthority
abbrev CapacitySnapshotRef := Ref .capacitySnapshot .capacitySnapshot
abbrev ReservationSnapshotRef := Ref .reservationSnapshot .reservationSnapshot
abbrev PolicyRef := Ref .policy .policy
abbrev ObjectiveProfileRef := Ref .objectiveProfile .objectiveProfile
abbrev PlanRef := Ref .plan .plan

/-- The 128-bit identity of one process incarnation. -/
structure BootId where
  bytes : Vector UInt8 16
deriving DecidableEq

namespace BootId

instance : Inhabited BootId := ⟨⟨Vector.replicate 16 0⟩⟩

def valid (boot : BootId) : Bool := boot.bytes.toList.any (· != 0)

end BootId

end TrafficFabric
