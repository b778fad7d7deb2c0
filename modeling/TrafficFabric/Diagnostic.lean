import TrafficFabric.Identity

set_option autoImplicit false

namespace TrafficFabric

/-- The failure taxonomy of `diagnostic.hpp`; success is not an error here. -/
inductive ErrorCode
  | invalidArgument | malformedInput | truncatedInput | trailingInput | oversizedInput
  | unsupportedVersion | integrityFailure | unsupportedFeature
  | duplicateIdentity | unknownReference | cyclicReference | invalidGeneration | missingProvenance
  | limitExceeded | numericOverflow | numericInvalid
  | staleAuthority | conflictingAuthority | authorityRegression | fenced | epochMismatch
  | unauthorized
  | invalidTransition | alreadyCommitted | notFound | superseded | retired
  | ioFailure | transportFailure | timeout | cancellation | shutdown | capacityExhausted
  | internalError | unsupportedObjective | solverLimit | churnBound | degradedNotPermitted
deriving DecidableEq, Repr, Inhabited

def ErrorCode.toText : ErrorCode → Text
  | .invalidArgument => text "INVALID_ARGUMENT"
  | .malformedInput => text "MALFORMED_INPUT"
  | .truncatedInput => text "TRUNCATED_INPUT"
  | .trailingInput => text "TRAILING_INPUT"
  | .oversizedInput => text "OVERSIZED_INPUT"
  | .unsupportedVersion => text "UNSUPPORTED_VERSION"
  | .integrityFailure => text "INTEGRITY_FAILURE"
  | .unsupportedFeature => text "UNSUPPORTED_FEATURE"
  | .duplicateIdentity => text "DUPLICATE_IDENTITY"
  | .unknownReference => text "UNKNOWN_REFERENCE"
  | .cyclicReference => text "CYCLIC_REFERENCE"
  | .invalidGeneration => text "INVALID_GENERATION"
  | .missingProvenance => text "MISSING_PROVENANCE"
  | .limitExceeded => text "LIMIT_EXCEEDED"
  | .numericOverflow => text "NUMERIC_OVERFLOW"
  | .numericInvalid => text "NUMERIC_INVALID"
  | .staleAuthority => text "STALE_AUTHORITY"
  | .conflictingAuthority => text "CONFLICTING_AUTHORITY"
  | .authorityRegression => text "AUTHORITY_REGRESSION"
  | .fenced => text "FENCED"
  | .epochMismatch => text "EPOCH_MISMATCH"
  | .unauthorized => text "UNAUTHORIZED"
  | .invalidTransition => text "INVALID_TRANSITION"
  | .alreadyCommitted => text "ALREADY_COMMITTED"
  | .notFound => text "NOT_FOUND"
  | .superseded => text "SUPERSEDED"
  | .retired => text "RETIRED"
  | .ioFailure => text "IO_FAILURE"
  | .transportFailure => text "TRANSPORT_FAILURE"
  | .timeout => text "TIMEOUT"
  | .cancellation => text "CANCELLATION"
  | .shutdown => text "SHUTDOWN"
  | .capacityExhausted => text "CAPACITY_EXHAUSTED"
  | .internalError => text "INTERNAL_ERROR"
  | .unsupportedObjective => text "UNSUPPORTED_OBJECTIVE"
  | .solverLimit => text "SOLVER_LIMIT"
  | .churnBound => text "CHURN_BOUND"
  | .degradedNotPermitted => text "DEGRADED_NOT_PERMITTED"

structure Error where
  code : ErrorCode
  detail : Text
deriving DecidableEq, Repr, Inhabited

def Error.format (error : Error) : Text := error.code.toText ++ text ": " ++ error.detail

abbrev Result (α : Type) := Except Error α

abbrev Status := Except Error Unit

def fail {α : Type} (code : ErrorCode) (detail : Text) : Result α := .error ⟨code, detail⟩

/-- `if (!condition) return Status(Error(code, detail))` followed by the rest. -/
def require (condition : Bool) (code : ErrorCode) (detail : Text) : Status :=
  if condition then .ok () else fail code detail

@[simp] theorem require_eq_ok (condition : Bool) (code : ErrorCode) (detail : Text) :
    require condition code detail = .ok () ↔ condition = true := by
  unfold require
  cases condition <;> simp [fail]

/-- Sequenced checks succeed exactly when each of them does. -/
theorem bind_eq_ok {α β : Type} (first : Result α) (next : α → Result β) (value : β) :
    (first >>= next) = .ok value ↔ ∃ middle, first = .ok middle ∧ next middle = .ok value := by
  cases first with
  | error reason => simp [bind, Except.bind]
  | ok middle => simp [bind, Except.bind]

theorem check_bind_eq_ok {β : Type} (first : Status) (next : Unit → Result β) (value : β) :
    (first >>= next) = .ok value ↔ first = .ok () ∧ next () = .ok value := by
  rw [bind_eq_ok]
  exact ⟨fun ⟨_, checked, later⟩ => ⟨checked, later⟩, fun ⟨checked, later⟩ => ⟨(), checked, later⟩⟩

/-- A loop that returns the first failed check of its elements. -/
def checkAll {α : Type} (check : α → Status) : List α → Status
  | [] => .ok ()
  | item :: rest => do
      check item
      checkAll check rest

theorem checkAll_eq_ok {α : Type} (check : α → Status) (items : List α) :
    checkAll check items = .ok () ↔ ∀ item ∈ items, check item = .ok () := by
  induction items with
  | nil => simp [checkAll]
  | cons item rest ih =>
      simp only [checkAll, check_bind_eq_ok, ih, List.forall_mem_cons]

end TrafficFabric
