import TrafficFabric.Problem

set_option autoImplicit false

/- Objective metrics of an allocation and the weighted score. The accumulators of
`compute_metrics` do not read each other, so each is a fold of its own here. -/
namespace TrafficFabric

structure Metrics where
  shortfallBelowFloor : Int := 0
  shortfallBelowDesired : Int := 0
  maxUtilizationPermille : Int := 0
  congestionExposure : Int := 0
  weightedPathCost : Int := 0
  movedBandwidth : Int := 0
  displacedReservations : Int := 0
  priorityWeightedShortfall : Int := 0
  fairnessSpreadPermille : Int := 0
  maxDomainConcentration : Int := 0
  usedShares : Int := 0
deriving DecidableEq, Inhabited

/-- Entries of active demands, with what was derived for the demand. -/
def scoredEntries (derived : Derivation) (allocation : Allocation) :
    List (DemandAllocation × DemandDerivation) :=
  allocation.demands.filterMap fun entry =>
    match (expectedDemands derived).find? entry.demand with
    | none => none
    | some demand => if demand.active then some (entry, demand) else none

def usedSharesOf (entry : DemandAllocation) : List PathShare :=
  entry.shares.filter fun share => decide (0 < share.granted)

def floorShortfall (scored : List (DemandAllocation × DemandDerivation)) : Int :=
  scored.foldl (fun total pair =>
    if pair.1.granted < pair.2.floor then satAdd total (pair.2.floor - pair.1.granted)
    else total) 0

def desiredShortfall (scored : List (DemandAllocation × DemandDerivation)) : Int :=
  scored.foldl (fun total pair =>
    if pair.1.granted < pair.2.desired then satAdd total (pair.2.desired - pair.1.granted)
    else total) 0

def weightedShortfall (scored : List (DemandAllocation × DemandDerivation)) : Int :=
  scored.foldl (fun total pair =>
    if pair.1.granted < pair.2.desired then
      satAdd total (satMul (pair.2.desired - pair.1.granted) (256 - pair.2.priority.toNat))
    else total) 0

def pathCost (snapshot : FabricSnapshot) (scored : List (DemandAllocation × DemandDerivation)) :
    Int :=
  (scored.flatMap fun pair => usedSharesOf pair.1).foldl (fun total share =>
    match findPath snapshot share.path with
    | none => total
    | some path => satAdd total (satMul share.granted path.cost)) 0

/-- Granted and desired bandwidth of each tenant. -/
def tenantTotals (scored : List (DemandAllocation × DemandDerivation)) :
    OrdMap Text (Int × Int) :=
  scored.foldl (fun totals pair =>
    let before := (totals.find? pair.2.tenant.str).getD (0, 0)
    totals.insert pair.2.tenant.str
      (satAdd before.1 pair.1.granted, satAdd before.2 pair.2.desired)) OrdMap.empty

def tenantRatio (totals : Int × Int) : Int :=
  if totals.2 ≤ 0 then 1000 else min 1000 (permille totals.1 totals.2)

def fairnessSpread (totals : OrdMap Text (Int × Int)) : Int :=
  if totals.entries.isEmpty then 0
  else
    let ratios := totals.entries.map fun entry => tenantRatio entry.2
    let lowest := ratios.foldl min int64Max
    let highest := ratios.foldl max 0
    highest - if lowest = int64Max then 0 else lowest

/-- The last value written for each demand and path. -/
def shareTable (allocation : Allocation) : OrdMap (Text ×ₗ Text) Int :=
  allocation.demands.foldl (fun table entry =>
    entry.shares.foldl (fun table share =>
      table.insert (toLex (entry.demand.str, share.path.str)) share.granted) table) OrdMap.empty

def movedBetween (before after : OrdMap (Text ×ₗ Text) Int) : Int :=
  (sortUnique id (before.keys ++ after.keys)).foldl (fun moved key =>
    let left := (before.find? key).getD 0
    let right := (after.find? key).getD 0
    satAdd moved (if right < left then left - right else right - left)) 0

def congestion (resources : List ResourceUtilization) : Int :=
  resources.foldl (fun total resource =>
    if 0 < resource.available then
      satAdd total
        ((satMul resource.allocated (permille resource.allocated resource.available)).tdiv 1000)
    else total) 0

def domainLoad (snapshot : FabricSnapshot) (allocation : Allocation) : OrdMap Text Int :=
  (allocation.demands.flatMap usedSharesOf).foldl (fun load share =>
    match findPath snapshot share.path with
    | none => load
    | some path => addDomains share.granted load path.failureDomains) OrdMap.empty

def computeMetrics (snapshot : FabricSnapshot) (derived : Derivation) (allocation : Allocation)
    (options : SolveOptions) : Metrics :=
  let scored := scoredEntries derived allocation
  { shortfallBelowFloor := floorShortfall scored
    shortfallBelowDesired := desiredShortfall scored
    maxUtilizationPermille :=
      allocation.resources.foldl (fun most resource => max most resource.utilizationPermille) 0
    congestionExposure := congestion allocation.resources
    weightedPathCost := pathCost snapshot scored
    movedBandwidth :=
      if options.hasIncumbent then
        movedBetween (shareTable options.incumbent) (shareTable allocation)
      else 0
    displacedReservations :=
      (derived.reservations.filter fun accounting =>
        accounting.displaceable && accounting.active).length
    priorityWeightedShortfall := weightedShortfall scored
    fairnessSpreadPermille := fairnessSpread (tenantTotals scored)
    maxDomainConcentration :=
      (domainLoad snapshot allocation).entries.foldl (fun most entry => max most entry.2) 0
    usedShares := (scored.flatMap fun pair => usedSharesOf pair.1).length }

def rawValue (metrics : Metrics) : ObjectiveTerm → Int
  | .satisfyMinimums => metrics.shortfallBelowFloor
  | .minimizeMaxUtilization => metrics.maxUtilizationPermille
  | .minimizeCongestionExposure => metrics.congestionExposure
  | .minimizeTotalPathCost => metrics.weightedPathCost
  | .minimizeChurn => metrics.movedBandwidth
  | .preserveReservations => metrics.displacedReservations
  | .preservePriority => metrics.priorityWeightedShortfall
  | .maximizeDesiredBandwidth => metrics.shortfallBelowDesired
  | .fairnessAcrossGroups => metrics.fairnessSpreadPermille
  | .minimizeFailureDomainConcentration => metrics.maxDomainConcentration
  | .minimizePathCount => metrics.usedShares

def unitOf : ObjectiveTerm → Text
  | .satisfyMinimums => text "fbu"
  | .minimizeMaxUtilization => text "permille"
  | .minimizeCongestionExposure => text "fbu"
  | .minimizeTotalPathCost => text "cost-fbu"
  | .minimizeChurn => text "fbu"
  | .preserveReservations => text "reservations"
  | .preservePriority => text "priority-fbu"
  | .maximizeDesiredBandwidth => text "fbu"
  | .fairnessAcrossGroups => text "permille"
  | .minimizeFailureDomainConcentration => text "fbu"
  | .minimizePathCount => text "shares"

def componentOf (metrics : Metrics) (term : ObjectiveWeight) : ObjectiveComponent :=
  { term := term.term
    weight := term.weight
    raw := rawValue metrics term.term
    weighted := satMul term.weight (rawValue metrics term.term)
    unit := unitOf term.term }

/-- Total score with one component for each term. -/
def scoreFromMetrics (terms : List ObjectiveWeight) (metrics : Metrics) :
    Int × List ObjectiveComponent :=
  let components := terms.map (componentOf metrics)
  (components.foldl (fun total component => satAdd total component.weighted) 0, components)

/-- Scores an allocation without planning anything. -/
def scoreAllocation (snapshot : FabricSnapshot) (allocation : Allocation) :
    Int × List ObjectiveComponent :=
  match derive snapshot with
  | .error _ => (0, [])
  | .ok derived =>
      scoreFromMetrics snapshot.objective.terms (computeMetrics snapshot derived allocation {})

end TrafficFabric
