import TrafficFabric.Scoring

set_option autoImplicit false

namespace TrafficFabric

inductive ChurnDecision
  | noIncumbent | accept | holdIncumbent | rejectRegression
deriving DecidableEq, Repr, Inhabited

namespace ChurnDecision

def code : ChurnDecision → UInt8
  | noIncumbent => 0
  | accept => 1
  | holdIncumbent => 2
  | rejectRegression => 3

def toText : ChurnDecision → Text
  | noIncumbent => text "NO_INCUMBENT"
  | accept => text "ACCEPT"
  | holdIncumbent => text "HOLD_INCUMBENT"
  | rejectRegression => text "REJECT_REGRESSION"

end ChurnDecision

structure ChurnReport where
  decision : ChurnDecision := .noIncumbent
  incumbentScore : Int := 0
  proposalScore : Int := 0
  improvementPermille : Int := 0
  requiredImprovementPermille : Int := 0
  movedBandwidth : Int := 0
  totalBandwidth : Int := 0
  movedPermille : Int := 0
  maxMovedPermille : Int := 0
  demandsChanged : UInt32 := 0
  maxAffectedDemands : UInt32 := 0
  pathsAdded : UInt32 := 0
  pathsRemoved : UInt32 := 0
  failureDomainsChanged : UInt32 := 0
  operationalRiskPermille : Int := 0
  rationale : Text := []
deriving DecidableEq, Inhabited

/-- One demand and path whose grant differs, with the grants before and after. The demand is read back from
its text, and the source takes it for granted that there is one. -/
structure ShareChange where
  demand : Option DemandId
  before : Int
  after : Int

def shareChanges (incumbent proposal : Allocation) : List ShareChange :=
  let incumbentShares := shareTable incumbent
  let proposalShares := shareTable proposal
  (sortUnique id (incumbentShares.keys ++ proposalShares.keys)).filterMap fun key =>
    let before := (incumbentShares.find? key).getD 0
    let after := (proposalShares.find? key).getD 0
    if before = after then none else some ⟨Id.parse (ofLex key).1, before, after⟩

/-- No grant differs for a demand without an identity; there the source does not say what it computes. -/
def ChurnDefined (incumbent proposal : Allocation) : Prop :=
  ∀ change ∈ shareChanges incumbent proposal, change.demand.isSome = true

instance (incumbent proposal : Allocation) : Decidable (ChurnDefined incumbent proposal) :=
  inferInstanceAs (Decidable (∀ change ∈ shareChanges incumbent proposal, change.demand.isSome = true))

/-- The bandwidth on each failure domain, from every share that is not zero. -/
def domainTotals (snapshot : FabricSnapshot) (allocation : Allocation) : OrdMap Text Int :=
  (allocation.demands.flatMap DemandAllocation.shares).foldl (fun totals (share : PathShare) =>
    if share.granted = 0 then totals
    else
      match findPath snapshot share.path with
      | none => totals
      | some path => addDomains share.granted totals path.failureDomains) OrdMap.empty

/-- Scores are lower-is-better; the improvement is relative to the incumbent. -/
def improvementOf (incumbentScore proposalScore : Int) : Int :=
  if 0 < incumbentScore then permille (incumbentScore - proposalScore) incumbentScore
  else if proposalScore ≤ 0 then 0 else -1000

/-- Every policy gate the measured churn does not pass. -/
def churnFailures (policy : Policy) (report : ChurnReport) : List Text :=
  (if report.improvementPermille < policy.churnImprovementThresholdPermille then
    [text "improvement " ++ decimal report.improvementPermille ++
      text " permille is below the required " ++
      decimal policy.churnImprovementThresholdPermille ++ text " permille"] else []) ++
  (if policy.churnMaxMovedBandwidthPermille < report.movedPermille then
    [text "moved bandwidth " ++ decimal report.movedPermille ++
      text " permille exceeds the bound " ++
      decimal policy.churnMaxMovedBandwidthPermille ++ text " permille"] else []) ++
  (if policy.churnMaxAffectedDemands ≠ 0 ∧
      policy.churnMaxAffectedDemands < report.demandsChanged then
    [text "affected demands " ++ decimal report.demandsChanged.toNat ++
      text " exceed the bound " ++ decimal policy.churnMaxAffectedDemands.toNat] else []) ++
  (if policy.churnMaxOperationalRiskPermille < report.operationalRiskPermille then
    [text "operational risk " ++ decimal report.operationalRiskPermille ++
      text " permille exceeds the bound " ++
      decimal policy.churnMaxOperationalRiskPermille ++ text " permille"] else [])

/-- The measurements of the comparison, before a decision is made on them. They are those of the source
where the comparison is defined. -/
def measureChurn (incumbent proposal : Allocation) (snapshot : FabricSnapshot) (policy : Policy)
    (incumbentScore proposalScore : Int) : ChurnReport :=
  let changes := shareChanges incumbent proposal
  let moved := changes.foldl (fun moved change => satAdd moved
    (if change.after < change.before then change.before - change.after
      else change.after - change.before)) 0
  let total := max incumbent.totalGranted proposal.totalGranted
  let movedPermille := permille moved total
  let demandsChanged := (sortUnique id (changes.filterMap ShareChange.demand)).length.toUInt32
  let incumbentDomains := domainTotals snapshot incumbent
  let proposalDomains := domainTotals snapshot proposal
  let domains := sortUnique id (incumbentDomains.keys ++ proposalDomains.keys)
  let domainsChanged := (domains.filter fun domain =>
    (incumbentDomains.find? domain).getD 0 ≠ (proposalDomains.find? domain).getD 0).length.toUInt32
  let demandShare := permille demandsChanged.toNat incumbent.demands.length
  let domainShare := permille domainsChanged.toNat domains.length
  { incumbentScore := incumbentScore
    proposalScore := proposalScore
    improvementPermille := improvementOf incumbentScore proposalScore
    requiredImprovementPermille := policy.churnImprovementThresholdPermille
    movedBandwidth := moved
    totalBandwidth := total
    movedPermille := movedPermille
    maxMovedPermille := policy.churnMaxMovedBandwidthPermille
    demandsChanged := demandsChanged
    maxAffectedDemands := policy.churnMaxAffectedDemands
    pathsAdded := (changes.filter fun change => change.before = 0 ∧ 0 < change.after).length.toUInt32
    pathsRemoved := (changes.filter fun change => 0 < change.before ∧ change.after = 0).length.toUInt32
    failureDomainsChanged := domainsChanged
    operationalRiskPermille :=
      min 1000 ((movedPermille * 60 + demandShare * 25 + domainShare * 15).tdiv 100) }

def compareChurn (incumbent proposal : Allocation) (snapshot : FabricSnapshot) (policy : Policy)
    (incumbentScore proposalScore : Int) : ChurnReport :=
  let report := measureChurn incumbent proposal snapshot policy incumbentScore proposalScore
  if incumbent.demands.isEmpty && decide (incumbent.totalGranted ≤ 0) then
    { report with
      decision := .noIncumbent
      rationale :=
        text "no incumbent allocation was supplied; the proposal is not compared against one" }
  else if incumbentScore < proposalScore then
    { report with
      decision := .rejectRegression
      rationale := text "the proposal scores worse than the incumbent" }
  else
    let failures := churnFailures policy report
    if failures.isEmpty then
      { report with
        decision := .accept
        rationale :=
          text "the proposal improves the objective and stays inside every churn bound" }
    else
      { report with
        decision := .holdIncumbent
        rationale := text "the incumbent is retained: " ++
          List.intercalate (text "; ") failures }

end TrafficFabric
