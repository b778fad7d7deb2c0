import TrafficFabric.Framing
import TrafficFabric.PlanCodec

set_option autoImplicit false

/- The messages publishers and the coordinator exchange, and their payloads. -/
namespace TrafficFabric

/-- Zero stands for success. -/
def ErrorCode.code : ErrorCode → UInt16
  | .invalidArgument => 1
  | .malformedInput => 2
  | .truncatedInput => 3
  | .trailingInput => 4
  | .oversizedInput => 5
  | .unsupportedVersion => 6
  | .integrityFailure => 7
  | .unsupportedFeature => 8
  | .duplicateIdentity => 9
  | .unknownReference => 10
  | .cyclicReference => 11
  | .invalidGeneration => 12
  | .missingProvenance => 13
  | .limitExceeded => 14
  | .numericOverflow => 15
  | .numericInvalid => 16
  | .staleAuthority => 17
  | .conflictingAuthority => 18
  | .authorityRegression => 19
  | .fenced => 20
  | .epochMismatch => 21
  | .unauthorized => 22
  | .invalidTransition => 23
  | .alreadyCommitted => 24
  | .notFound => 25
  | .superseded => 26
  | .retired => 27
  | .ioFailure => 28
  | .transportFailure => 29
  | .timeout => 30
  | .cancellation => 31
  | .shutdown => 32
  | .capacityExhausted => 33
  | .internalError => 34
  | .unsupportedObjective => 35
  | .solverLimit => 36
  | .churnBound => 37
  | .degradedNotPermitted => 38

/-- The underlying value of the code: a decoder takes any. -/
abbrev WireCode := UInt16

def WireCode.success : WireCode := 0

inductive MessageType
  | helloRequest | helloResponse | registerPublisherRequest | registerPublisherResponse
  | planRequest | planResponse | commitRequest | commitResponse | supersedeRequest
  | supersedeResponse | retireRequest | retireResponse | queryRequest | queryResponse
  | explanationRequest | explanationResponse | ping | pong | errorResponse | shutdownNotice
deriving DecidableEq, Repr

namespace MessageType

def code : MessageType → UInt16
  | helloRequest => 1
  | helloResponse => 2
  | registerPublisherRequest => 3
  | registerPublisherResponse => 4
  | planRequest => 5
  | planResponse => 6
  | commitRequest => 7
  | commitResponse => 8
  | supersedeRequest => 9
  | supersedeResponse => 10
  | retireRequest => 11
  | retireResponse => 12
  | queryRequest => 13
  | queryResponse => 14
  | explanationRequest => 15
  | explanationResponse => 16
  | ping => 17
  | pong => 18
  | errorResponse => 19
  | shutdownNotice => 20

def all : List MessageType :=
  [helloRequest, helloResponse, registerPublisherRequest, registerPublisherResponse, planRequest,
    planResponse, commitRequest, commitResponse, supersedeRequest, supersedeResponse, retireRequest,
    retireResponse, queryRequest, queryResponse, explanationRequest, explanationResponse, ping, pong,
    errorResponse, shutdownNotice]

end MessageType

/-- On whose behalf a mutation is asked for, and under which coordinator. -/
structure MutationBinding where
  publisher : PublisherId := default
  publisherBoot : BootId := default
  coordinatorIncarnation : Gen .coordinatorIncarnation := default
  coordinatorEpoch : UInt64 := 0
  attempt : AttemptId := default
  attemptGeneration : Gen .attempt := default
deriving DecidableEq

def MutationBinding.valid (binding : MutationBinding) : Bool :=
  binding.publisher.valid && binding.publisherBoot.valid && binding.coordinatorIncarnation.valid &&
    binding.coordinatorEpoch != 0 && binding.attempt.valid && binding.attemptGeneration.valid

structure HelloRequest where
  protocolVersion : UInt16 := 0
deriving DecidableEq

structure HelloResponse where
  protocolVersion : UInt16 := 0
  coordinatorEpoch : UInt64 := 0
  coordinatorIncarnation : Gen .coordinatorIncarnation := default
  coordinatorBoot : BootId := default
  accepting : Bool := false
deriving DecidableEq

structure RegisterPublisherRequest where
  publisher : PublisherId := default
  boot : BootId := default
  coordinatorIncarnation : Gen .coordinatorIncarnation := default
  coordinatorEpoch : UInt64 := 0
  description : Text := []
deriving DecidableEq

structure RegisterPublisherResponse where
  accepted : Bool := false
  fenced : Bool := false
  coordinatorEpoch : UInt64 := 0
  coordinatorIncarnation : Gen .coordinatorIncarnation := default
  detail : Text := []
deriving DecidableEq

/-- The publisher chooses the plan's identity; snapshot and incumbent are encoded. -/
structure PlanRequest where
  binding : MutationBinding := {}
  planId : PlanId := default
  snapshot : List UInt8 := []
  allowDegraded : Bool := false
  hasIncumbent : Bool := false
  incumbent : List UInt8 := []
  incumbentRef : PlanRef := default
deriving DecidableEq

structure PlanResponse where
  code : WireCode := WireCode.success
  detail : Text := []
  plan : PlanRef := default
  state : PlanState := .declared
  applicability : PlanApplicability := .notEvaluated
  feasibility : FeasibilityStatus := .feasible
  objectiveScore : Int := 0
  planDigest : Digest := default
  explanationDigest : Digest := default
  explanationJson : Text := []
  supersededIncumbent : Bool := false
  incumbent : PlanRef := default
deriving DecidableEq

structure CommitRequest where
  binding : MutationBinding := {}
  plan : PlanRef := default
  commit : CommitId := default
  commitGeneration : Gen .commit := default
deriving DecidableEq

structure CommitResponse where
  code : WireCode := WireCode.success
  detail : Text := []
  plan : PlanRef := default
  state : PlanState := .declared
  commitGeneration : Gen .commit := default
  commitDigest : Digest := default
  idempotentReplay : Bool := false
  churn : ChurnReport := {}
deriving DecidableEq

structure SupersedeRequest where
  binding : MutationBinding := {}
  incumbent : PlanRef := default
  replacement : PlanRef := default
deriving DecidableEq

structure SupersedeResponse where
  code : WireCode := WireCode.success
  detail : Text := []
  incumbent : PlanRef := default
  replacement : PlanRef := default
deriving DecidableEq

structure RetireRequest where
  binding : MutationBinding := {}
  plan : PlanRef := default
deriving DecidableEq

structure RetireResponse where
  code : WireCode := WireCode.success
  detail : Text := []
  plan : PlanRef := default
  state : PlanState := .declared
deriving DecidableEq

structure QueryRequest where
  plan : PlanRef := default
  includeExplanation : Bool := false
deriving DecidableEq

structure QueryResponse where
  code : WireCode := WireCode.success
  detail : Text := []
  plan : Plan := {}
  applicability : PlanApplicability := .notEvaluated
  explanationJson : Text := []
deriving DecidableEq

structure ErrorResponse where
  code : WireCode := ErrorCode.invalidArgument.code
  detail : Text := []
deriving DecidableEq

/-! Encoding. -/

namespace Writer

/-- A blob is written as a text is. -/
def blob (bytes : List UInt8) : List UInt8 := str bytes

def mutationBinding (binding : MutationBinding) : List UInt8 :=
  str binding.publisher.str ++ boot binding.publisherBoot ++
    u64 binding.coordinatorIncarnation.value ++ u64 binding.coordinatorEpoch ++
    str binding.attempt.str ++ u64 binding.attemptGeneration.value

/-- Unlike the record of a plan, a message carries the whole churn report. -/
def churnReport (churn : ChurnReport) : List UInt8 :=
  u8 churn.decision.code ++ i64 churn.incumbentScore ++ i64 churn.proposalScore ++
    i64 churn.improvementPermille ++ i64 churn.requiredImprovementPermille ++
    i64 churn.movedBandwidth ++ i64 churn.totalBandwidth ++ i64 churn.movedPermille ++
    i64 churn.maxMovedPermille ++ u32 churn.demandsChanged ++ u32 churn.maxAffectedDemands ++
    u32 churn.pathsAdded ++ u32 churn.pathsRemoved ++ u32 churn.failureDomainsChanged ++
    i64 churn.operationalRiskPermille ++ str churn.rationale

/-- A share as an incumbent carries it. -/
def carriedShare (share : PathShare) : List UInt8 :=
  str share.path.str ++ u64 share.generation.value ++ i64 share.granted ++ i64 share.reserved

def carriedDemand (demand : DemandAllocation) : List UInt8 :=
  str demand.demand.str ++ u64 demand.generation.value ++ i64 demand.minimum ++
    i64 demand.desired ++ i64 demand.maximum ++ i64 demand.granted ++ i64 demand.reserved ++
    i64 demand.effective ++ sequence carriedShare demand.shares

end Writer

open Writer (u8 u16 u64 i64 boolean str boot digest sequence blob mutationBinding churnReport)

def encodeAllocation (allocation : Allocation) : List UInt8 :=
  u16 durableFormatVersion ++ sequence Writer.carriedDemand allocation.demands ++
    i64 allocation.totalGranted ++ i64 allocation.totalReserved ++ boolean allocation.degraded

def HelloRequest.encode (message : HelloRequest) : List UInt8 := u16 message.protocolVersion

def HelloResponse.encode (message : HelloResponse) : List UInt8 :=
  u16 message.protocolVersion ++ u64 message.coordinatorEpoch ++
    u64 message.coordinatorIncarnation.value ++ boot message.coordinatorBoot ++
    boolean message.accepting

def RegisterPublisherRequest.encode (message : RegisterPublisherRequest) : List UInt8 :=
  str message.publisher.str ++ Writer.boot message.boot ++ u64 message.coordinatorIncarnation.value ++
    u64 message.coordinatorEpoch ++ str message.description

def RegisterPublisherResponse.encode (message : RegisterPublisherResponse) : List UInt8 :=
  boolean message.accepted ++ boolean message.fenced ++ u64 message.coordinatorEpoch ++
    u64 message.coordinatorIncarnation.value ++ str message.detail

def PlanRequest.encode (message : PlanRequest) : List UInt8 :=
  mutationBinding message.binding ++ str message.planId.str ++ blob message.snapshot ++
    boolean message.allowDegraded ++ boolean message.hasIncumbent ++ blob message.incumbent ++
    Writer.ref message.incumbentRef

def PlanResponse.encode (message : PlanResponse) : List UInt8 :=
  u16 message.code ++ str message.detail ++ Writer.ref message.plan ++ u16 message.state.code ++
    u16 message.applicability.code ++ u16 message.feasibility.code ++ i64 message.objectiveScore ++
    digest message.planDigest ++ digest message.explanationDigest ++ str message.explanationJson ++
    boolean message.supersededIncumbent ++ Writer.ref message.incumbent

def CommitRequest.encode (message : CommitRequest) : List UInt8 :=
  mutationBinding message.binding ++ Writer.ref message.plan ++ str message.commit.str ++
    u64 message.commitGeneration.value

def CommitResponse.encode (message : CommitResponse) : List UInt8 :=
  u16 message.code ++ str message.detail ++ Writer.ref message.plan ++ u16 message.state.code ++
    u64 message.commitGeneration.value ++ digest message.commitDigest ++
    boolean message.idempotentReplay ++ churnReport message.churn

def SupersedeRequest.encode (message : SupersedeRequest) : List UInt8 :=
  mutationBinding message.binding ++ Writer.ref message.incumbent ++ Writer.ref message.replacement

def SupersedeResponse.encode (message : SupersedeResponse) : List UInt8 :=
  u16 message.code ++ str message.detail ++ Writer.ref message.incumbent ++
    Writer.ref message.replacement

def RetireRequest.encode (message : RetireRequest) : List UInt8 :=
  mutationBinding message.binding ++ Writer.ref message.plan

def RetireResponse.encode (message : RetireResponse) : List UInt8 :=
  u16 message.code ++ str message.detail ++ Writer.ref message.plan ++ u16 message.state.code

def QueryRequest.encode (message : QueryRequest) : List UInt8 :=
  Writer.ref message.plan ++ boolean message.includeExplanation

def QueryResponse.encode (message : QueryResponse) : List UInt8 :=
  u16 message.code ++ str message.detail ++ u16 message.applicability.code ++
    blob message.explanationJson ++ blob (encodePlan message.plan)

def ErrorResponse.encode (message : ErrorResponse) : List UInt8 :=
  u16 message.code ++ str message.detail

/-! Decoding. -/

namespace Wire

open Reader (raw u8 u16 u32 u64 i64)
open PlanCodec (bounded)

/-- Every read that fails, and every check that does, ends in the one message. -/
def malformed : String := "the frame payload is malformed or truncated"

def part {α : Type} (read : Reader α) : Decoding α := need read .malformedInput malformed

def accept {α : Type} (value : Option α) : Decoding α := parsed value .malformedInput malformed

def readId {kind : IdKind} : Decoding (Id kind) := do
  let name ← part (Reader.str Limits.maxNameLength)
  accept (Id.parse name)

def readGen {kind : GenKind} : Decoding (Gen kind) := do
  let value ← part u64
  accept (Gen.parse value)

def readBoot : Decoding BootId := do
  let bytes ← part (raw 16)
  pure ⟨Vector.ofFn fun i : Fin 16 => bytes.getD i.val 0⟩

def readText : Decoding Text := part (Reader.str Limits.maxTextLength)

def readBlob : Decoding (List UInt8) := part (Reader.str Limits.maxFramePayload)

def readBinding : Decoding MutationBinding := do
  let publisher ← readId
  let publisherBoot ← readBoot
  let coordinatorIncarnation ← readGen
  let coordinatorEpoch ← part u64
  let attempt ← readId
  let attemptGeneration ← readGen
  pure
    { publisher := publisher
      publisherBoot := publisherBoot
      coordinatorIncarnation := coordinatorIncarnation
      coordinatorEpoch := coordinatorEpoch
      attempt := attempt
      attemptGeneration := attemptGeneration }

def readOptionalId {kind : IdKind} : Decoding (Id kind) := do
  let name ← part (Reader.str Limits.maxNameLength)
  if name.isEmpty then pure default else accept (Id.parse name)

/-- Behind an absent identity the generation is read and ignored. -/
def readOptionalGen {kind : GenKind} (present : Bool) : Decoding (Gen kind) := do
  let value ← part u64
  if present then accept (Gen.parse value) else pure default

def readPlanRef : Decoding PlanRef := do
  let id ← readOptionalId
  let generation ← readOptionalGen id.valid
  pure ⟨id, generation⟩

def readPlanRefRequired : Decoding PlanRef := do
  let ref ← readPlanRef
  refuse (!ref.valid) .malformedInput malformed
  pure ref

def readChurn : Decoding ChurnReport := do
  let code ← part u8
  let decision ← accept (ofCode ChurnDecision.all ChurnDecision.code code)
  let incumbentScore ← part i64
  let proposalScore ← part i64
  let improvementPermille ← part i64
  let requiredImprovementPermille ← part i64
  let movedBandwidth ← part i64
  let totalBandwidth ← part i64
  let movedPermille ← part i64
  let maxMovedPermille ← part i64
  let demandsChanged ← part u32
  let maxAffectedDemands ← part u32
  let pathsAdded ← part u32
  let pathsRemoved ← part u32
  let failureDomainsChanged ← part u32
  let operationalRiskPermille ← part i64
  let rationale ← readText
  pure
    { decision := decision
      incumbentScore := incumbentScore
      proposalScore := proposalScore
      improvementPermille := improvementPermille
      requiredImprovementPermille := requiredImprovementPermille
      movedBandwidth := movedBandwidth
      totalBandwidth := totalBandwidth
      movedPermille := movedPermille
      maxMovedPermille := maxMovedPermille
      demandsChanged := demandsChanged
      maxAffectedDemands := maxAffectedDemands
      pathsAdded := pathsAdded
      pathsRemoved := pathsRemoved
      failureDomainsChanged := failureDomainsChanged
      operationalRiskPermille := operationalRiskPermille
      rationale := rationale }

def readState : Decoding PlanState := do
  let code ← part u16
  accept (ofCode PlanState.all PlanState.code code)

def readHelloRequest : Decoding HelloRequest := do
  let protocolVersion ← part u16
  pure ⟨protocolVersion⟩

def readHelloResponse : Decoding HelloResponse := do
  let protocolVersion ← part u16
  let coordinatorEpoch ← part u64
  let coordinatorIncarnation ← readGen
  let coordinatorBoot ← readBoot
  let accepting ← part Reader.boolean
  pure ⟨protocolVersion, coordinatorEpoch, coordinatorIncarnation, coordinatorBoot, accepting⟩

def readRegisterPublisherRequest : Decoding RegisterPublisherRequest := do
  let publisher ← readId
  let boot ← readBoot
  let coordinatorIncarnation ← readGen
  let coordinatorEpoch ← part u64
  let description ← readText
  pure ⟨publisher, boot, coordinatorIncarnation, coordinatorEpoch, description⟩

def readRegisterPublisherResponse : Decoding RegisterPublisherResponse := do
  let accepted ← part Reader.boolean
  let fenced ← part Reader.boolean
  let coordinatorEpoch ← part u64
  let coordinatorIncarnation ← readGen
  let detail ← readText
  pure ⟨accepted, fenced, coordinatorEpoch, coordinatorIncarnation, detail⟩

def readPlanRequest : Decoding PlanRequest := do
  let binding ← readBinding
  let planId ← readId
  let snapshot ← readBlob
  let allowDegraded ← part Reader.boolean
  let hasIncumbent ← part Reader.boolean
  let incumbent ← readBlob
  let incumbentRef ← readPlanRef
  pure ⟨binding, planId, snapshot, allowDegraded, hasIncumbent, incumbent, incumbentRef⟩

/-- The three codes are read before the first is looked at. -/
def readPlanResponse : Decoding PlanResponse := do
  let code ← part u16
  let detail ← readText
  let plan ← readPlanRef
  let stateCode ← part u16
  let applicabilityCode ← part u16
  let feasibilityCode ← part u16
  let state ← accept (ofCode PlanState.all PlanState.code stateCode)
  let applicability ← accept (ofCode PlanApplicability.all PlanApplicability.code applicabilityCode)
  let feasibility ← accept (ofCode FeasibilityStatus.all FeasibilityStatus.code feasibilityCode)
  let objectiveScore ← part i64
  let planDigest ← part Reader.digest
  let explanationDigest ← part Reader.digest
  let explanationJson ← part (Reader.str Limits.maxFramePayload)
  let supersededIncumbent ← part Reader.boolean
  let incumbent ← readPlanRef
  pure
    { code := code
      detail := detail
      plan := plan
      state := state
      applicability := applicability
      feasibility := feasibility
      objectiveScore := objectiveScore
      planDigest := planDigest
      explanationDigest := explanationDigest
      explanationJson := explanationJson
      supersededIncumbent := supersededIncumbent
      incumbent := incumbent }

def readCommitRequest : Decoding CommitRequest := do
  let binding ← readBinding
  let plan ← readPlanRefRequired
  let commit ← readId
  let commitGeneration ← readGen
  pure ⟨binding, plan, commit, commitGeneration⟩

/-- A commit generation of zero stands for none. -/
def readCommitGeneration : Decoding (Gen .commit) := do
  let value ← part u64
  if value != 0 then accept (Gen.parse value) else pure default

def readCommitResponse : Decoding CommitResponse := do
  let code ← part u16
  let detail ← readText
  let plan ← readPlanRef
  let state ← readState
  let commitGeneration ← readCommitGeneration
  let commitDigest ← part Reader.digest
  let idempotentReplay ← part Reader.boolean
  let churn ← readChurn
  pure ⟨code, detail, plan, state, commitGeneration, commitDigest, idempotentReplay, churn⟩

def readSupersedeRequest : Decoding SupersedeRequest := do
  let binding ← readBinding
  let incumbent ← readPlanRefRequired
  let replacement ← readPlanRefRequired
  pure ⟨binding, incumbent, replacement⟩

def readSupersedeResponse : Decoding SupersedeResponse := do
  let code ← part u16
  let detail ← readText
  let incumbent ← readPlanRef
  let replacement ← readPlanRef
  pure ⟨code, detail, incumbent, replacement⟩

def readRetireRequest : Decoding RetireRequest := do
  let binding ← readBinding
  let plan ← readPlanRefRequired
  pure ⟨binding, plan⟩

def readRetireResponse : Decoding RetireResponse := do
  let code ← part u16
  let detail ← readText
  let plan ← readPlanRef
  let state ← readState
  pure ⟨code, detail, plan, state⟩

def readQueryRequest : Decoding QueryRequest := do
  let plan ← readPlanRefRequired
  let includeExplanation ← part Reader.boolean
  pure ⟨plan, includeExplanation⟩

/-- The record inside is decoded by itself, and its own error is dropped. -/
def readQueryResponse : Decoding QueryResponse := do
  let code ← part u16
  let detail ← readText
  let applicabilityCode ← part u16
  let applicability ← accept (ofCode PlanApplicability.all PlanApplicability.code applicabilityCode)
  let explanationJson ← readBlob
  let record ← readBlob
  let plan ← accept (decodePlan record).toOption
  pure ⟨code, detail, plan, applicability, explanationJson⟩

def readErrorResponse : Decoding ErrorResponse := do
  let code ← part u16
  let detail ← readText
  pure ⟨code, detail⟩

/-! The allocation an incumbent is sent as has messages of its own. -/

def payloadMalformed : String := "the message payload is malformed"

def readCarriedShare : Decoding PathShare := do
  let path ← PlanCodec.requiredId payloadMalformed "allocation path id is invalid"
  let generation ← PlanCodec.requiredGen "allocation path generation is truncated"
    "allocation path generation is zero"
  let quantity := need i64 .truncatedInput "allocation share quantities are truncated"
  let granted ← quantity
  let reserved ← quantity
  pure
    { path := path
      generation := generation
      granted := granted
      reserved := reserved }

def readCarriedDemand : Decoding DemandAllocation := do
  let demand ← PlanCodec.requiredId payloadMalformed "allocation demand id is invalid"
  let generation ← PlanCodec.requiredGen "allocation demand generation is truncated"
    "allocation demand generation is zero"
  let quantity := need i64 .truncatedInput "allocation demand quantities are truncated"
  let minimum ← quantity
  let desired ← quantity
  let maximum ← quantity
  let granted ← quantity
  let reserved ← quantity
  let effective ← quantity
  let shares ← bounded Limits.maxPathsPerDemand "allocation share count is truncated"
    "allocation share count exceeds the bound" readCarriedShare
  pure
    { demand := demand
      generation := generation
      minimum := minimum
      desired := desired
      maximum := maximum
      granted := granted
      reserved := reserved
      effective := effective
      shares := shares }

def readCarriedAllocation : Decoding Allocation := do
  let version ← need u16 .truncatedInput "allocation version is truncated"
  refuse (version != durableFormatVersion) .unsupportedVersion "unsupported allocation format version"
  let demands ← bounded Limits.maxDemands "allocation demand count is truncated"
    "allocation demand count exceeds the bound" readCarriedDemand
  let totalGranted ← need i64 .truncatedInput "allocation totals are truncated"
  let totalReserved ← need i64 .truncatedInput "allocation totals are truncated"
  let degraded ← need Reader.boolean .truncatedInput "allocation degraded flag is truncated"
  pure
    { demands := demands
      totalGranted := totalGranted
      totalReserved := totalReserved
      degraded := degraded }

end Wire

def decodeStrict {α : Type} (decoder : Decoding α) (payload : List UInt8) : Result α :=
  decodeWhole decoder "the frame payload has trailing bytes" payload

def decodeHelloRequest := decodeStrict Wire.readHelloRequest
def decodeHelloResponse := decodeStrict Wire.readHelloResponse
def decodeRegisterPublisherRequest := decodeStrict Wire.readRegisterPublisherRequest
def decodeRegisterPublisherResponse := decodeStrict Wire.readRegisterPublisherResponse
def decodePlanRequest := decodeStrict Wire.readPlanRequest
def decodePlanResponse := decodeStrict Wire.readPlanResponse
def decodeCommitRequest := decodeStrict Wire.readCommitRequest
def decodeCommitResponse := decodeStrict Wire.readCommitResponse
def decodeSupersedeRequest := decodeStrict Wire.readSupersedeRequest
def decodeSupersedeResponse := decodeStrict Wire.readSupersedeResponse
def decodeRetireRequest := decodeStrict Wire.readRetireRequest
def decodeRetireResponse := decodeStrict Wire.readRetireResponse
def decodeQueryRequest := decodeStrict Wire.readQueryRequest
def decodeQueryResponse := decodeStrict Wire.readQueryResponse
def decodeErrorResponse := decodeStrict Wire.readErrorResponse

def decodeAllocation (payload : List UInt8) : Result Allocation :=
  decodeWhole Wire.readCarriedAllocation "allocation payload has trailing bytes" payload

end TrafficFabric
