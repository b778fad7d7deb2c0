import TrafficFabric.Allocation
import TrafficFabric.FlowNetwork

set_option autoImplicit false

/- The working state of the solver and the moves on it. A demand or a path that the
source reaches through `at` is looked up here with a default; `Problem.Consistent` in
`Placement` holds the facts that make every such lookup succeed. -/
namespace TrafficFabric

structure SolveOptions where
  maxIterations : Nat := Limits.maxSolverIterations
  hasIncumbent : Bool := false
  incumbent : Allocation := default
  allowDegraded : Bool := false

structure ResourceState where
  id : ResourceId := default
  generation : Gen .resource := default
  usable : Int := 0
  committed : Int := 0
  reserved : Int := 0
  available : Int := 0
  ceiling : Int := 0
  allocated : Int := 0
deriving DecidableEq, Inhabited

structure DemandState where
  derivation : DemandDerivation := default
  granted : Int := 0
  reservationFloor : Int := 0
  shares : OrdMap PathId Int := OrdMap.empty
  exclusion : Text := []
deriving DecidableEq, Inhabited

structure Problem where
  terms : List ObjectiveWeight
  derivation : Derivation
  resources : OrdMap ResourceId ResourceState
  paths : OrdMap PathId PathFacts
  demands : OrdMap DemandId DemandState

namespace Problem

/-- `problem.demands.at(id)`. -/
def demandOf (problem : Problem) (id : DemandId) : DemandState :=
  (problem.demands.find? id).getD default

/-- `problem.paths.at(id)`. -/
def pathOf (problem : Problem) (id : PathId) : PathFacts := (problem.paths.find? id).getD default

end Problem

/-- The residual after the utilisation ceiling of the given permille. -/
def ceilingOf (usable committed reserved available permille : Int) : Int :=
  let cap := match mulChecked usable permille with
    | some scaled => scaled.tdiv 1000
    | none => usable
  let headroom := match addChecked committed reserved with
    | some claimed => if claimed < cap then cap - claimed else 0
    | none => cap
  max 0 (min available headroom)

def recomputeCeiling (resource : ResourceState) (permille : Int) : ResourceState :=
  { resource with
    ceiling := ceilingOf resource.usable resource.committed resource.reserved resource.available
      permille }

def setCeiling (problem : Problem) (permille : Int) : Problem :=
  { problem with
    resources := problem.resources.mapValues fun resource => recomputeCeiling resource permille }

/-- The loop of `path_headroom`; `best` starts at the infinite bandwidth. -/
def headroomAlong (resources : OrdMap ResourceId ResourceState) : List ResourceId → Int → Int
  | [], best => if best = kInfinite then 0 else best
  | id :: rest, best =>
      match resources.find? id with
      | none => 0
      | some resource =>
          let headroom := resource.ceiling - resource.allocated
          let lower := if headroom < best then headroom else best
          if lower ≤ 0 then 0 else headroomAlong resources rest lower

def pathHeadroom (problem : Problem) (path : PathFacts) : Int :=
  headroomAlong problem.resources path.resources kInfinite

def consume (resources : OrdMap ResourceId ResourceState) (path : PathFacts) (amount : Int) :
    OrdMap ResourceId ResourceState :=
  path.resources.foldl (fun resources id => resources.modify id fun resource =>
    { resource with allocated := satAdd resource.allocated amount }) resources

def release (resources : OrdMap ResourceId ResourceState) (path : PathFacts) (amount : Int) :
    OrdMap ResourceId ResourceState :=
  path.resources.foldl (fun resources id => resources.modify id fun resource =>
    { resource with allocated := max 0 (resource.allocated - amount) }) resources

def DemandState.addShare (state : DemandState) (path : PathId) (amount : Int) : DemandState :=
  { state with
    shares := state.shares.insert path (satAdd ((state.shares.find? path).getD 0) amount)
    granted := satAdd state.granted amount }

def grant (problem : Problem) (demand : DemandId) (path : PathFacts) (amount : Int) : Problem :=
  if amount ≤ 0 then problem
  else
    { problem with
      demands := problem.demands.modify demand fun state => state.addShare path.id amount
      resources := consume problem.resources path amount }

def DemandState.takeShare (state : DemandState) (path : PathId) (held taken : Int) : DemandState :=
  { state with
    shares := if held - taken = 0 then state.shares.erase path
      else state.shares.insert path (held - taken)
    granted := max 0 (state.granted - taken) }

def revoke (problem : Problem) (demand : DemandId) (path : PathFacts) (amount : Int) : Problem :=
  if amount ≤ 0 then problem
  else
    match (problem.demandOf demand).shares.find? path.id with
    | none => problem
    | some held =>
        let taken := min amount held
        { problem with
          demands := problem.demands.modify demand fun state => state.takeShare path.id held taken
          resources := release problem.resources path taken }

/-! A fresh problem. -/

/-- `map[key] = sat_add(map[key], amount)`. -/
def addAmount {K : Type} [LinearOrder K] (amounts : OrdMap K Int) (key : K) (amount : Int) :
    OrdMap K Int :=
  amounts.insert key (satAdd ((amounts.find? key).getD 0) amount)

/-- Bandwidth that active reservations charge to each demand. -/
def reservationFloors (derived : Derivation) : OrdMap Text Int :=
  derived.reservations.foldl (fun floors accounting =>
    if !accounting.active || !accounting.chargedTo.valid then floors
    else addAmount floors accounting.chargedTo.str accounting.bandwidth) OrdMap.empty

def resourceState (residual : ResourceResidual) : ResourceState :=
  { id := residual.resource
    generation := residual.generation
    usable := residual.usableCapacity
    committed := residual.committedLoad
    reserved := residual.reserved
    available := residual.available
    ceiling := residual.available }

/-- The detail of the last note by which policy removes the demand. -/
def policyExclusion (notes : List BindingConstraint) : Text :=
  notes.foldl (fun exclusion note =>
    if note.kind = .tenantPolicy ∨ note.kind = .serviceClassPolicy then note.detail
    else exclusion) []

def demandState (floors : OrdMap Text Int) (demand : DemandDerivation) : DemandState :=
  { derivation := demand
    reservationFloor := (floors.find? demand.demand.str).getD 0
    exclusion := policyExclusion demand.notes }

def makeProblem (snapshot : FabricSnapshot) (derived : Derivation) : Problem :=
  { terms := snapshot.objective.terms
    derivation := derived
    resources := derived.residuals.foldl (fun resources residual =>
      resources.emplace residual.resource (resourceState residual)) OrdMap.empty
    paths := (planningPaths snapshot).foldl (fun paths path => paths.emplace path.id path)
      OrdMap.empty
    demands := derived.demands.foldl (fun demands demand =>
      demands.emplace demand.demand (demandState (reservationFloors derived) demand))
      OrdMap.empty }

/-! Orders. -/

/-- Priority descending, then demand identity. -/
def processingKey (demand : DemandDerivation) : Nat ×ₗ DemandId :=
  toLex (255 - demand.priority.toNat, demand.demand)

def canonicalProcessingOrder (derived : Derivation) : List DemandId :=
  (stableSort processingKey (derived.demands.filter fun demand => demand.active)).map
    DemandDerivation.demand

def addDomains (amount : Int) (load : OrdMap Text Int) (domains : List FailureDomainId) :
    OrdMap Text Int :=
  domains.foldl (fun load domain => addAmount load domain.str amount) load

def failureDomainLoad (problem : Problem) : OrdMap Text Int :=
  problem.demands.entries.foldl (fun load demand =>
    demand.2.shares.entries.foldl (fun load share =>
      if share.2 ≤ 0 then load
      else addDomains share.2 load (problem.pathOf share.1).failureDomains) load) OrdMap.empty

/-- The paths the incumbent puts bandwidth on for the demand. -/
def incumbentPaths (incumbent : Allocation) (demand : DemandId) : List PathId :=
  match incumbent.findDemand demand with
  | none => []
  | some entry => (entry.shares.filter fun share => decide (0 < share.granted)).map PathShare.path

def domainScore (load : OrdMap Text Int) (path : PathFacts) : Int :=
  path.failureDomains.foldl (fun total domain =>
    match load.find? domain.str with
    | some amount => satAdd total amount
    | none => total) 0

/-- The comparison chain of `order_paths`, with a constant where a criterion is off. -/
def preferenceKey (churnAware spreadDomains : Bool) (used : List PathId)
    (load : OrdMap Text Int) (path : PathFacts) (id : PathId) :
    Nat ×ₗ Int ×ₗ Int ×ₗ Int ×ₗ PathId :=
  toLex (if churnAware && !used.contains id then 1 else 0,
    toLex (if spreadDomains then domainScore load path else 0,
      toLex (path.cost, toLex (latencyOrWorst path, path.id))))

/-- Deterministic path preference order for a demand. -/
def orderPaths (problem : Problem) (demand : DemandId) (options : SolveOptions) : List PathId :=
  let state := problem.demandOf demand
  let churnAware := options.hasIncumbent && hasTerm problem.terms .minimizeChurn
  let spreadDomains := hasTerm problem.terms .minimizeFailureDomainConcentration
  let used := if churnAware then incumbentPaths options.incumbent state.derivation.demand else []
  let load := if spreadDomains then failureDomainLoad problem else OrdMap.empty
  stableSort (fun id => preferenceKey churnAware spreadDomains used load (problem.pathOf id) id)
    state.derivation.eligiblePaths

/-! Placement and repair. -/

def placeAlong (demand : DemandId) (need : Int) : List PathId → Int → Problem → Int × Problem
  | [], placed, problem => (placed, problem)
  | id :: rest, placed, problem =>
      if need ≤ placed then (placed, problem)
      else
        let path := problem.pathOf id
        let headroom := pathHeadroom problem path
        if headroom ≤ 0 then placeAlong demand need rest placed problem
        else
          let take := min headroom (need - placed)
          placeAlong demand need rest (satAdd placed take) (grant problem demand path take)

/-- No placement exceeds the authoritative maximum, whatever the caller asks for. -/
def place (problem : Problem) (demand : DemandId) (order : List PathId) (need : Int) :
    Int × Problem :=
  let state := problem.demandOf demand
  let allowed := state.derivation.maximum - state.granted
  if allowed ≤ 0 then (0, problem)
  else placeAlong demand (if allowed < need then allowed else need) order 0 problem

structure Mover where
  demand : DemandId
  path : PathId
  granted : Int
  priority : UInt8

def Mover.key (mover : Mover) : Nat ×ₗ DemandId ×ₗ PathId :=
  toLex (mover.priority.toNat, toLex (mover.demand, mover.path))

/-- Shares of other demands that cross the resource, lowest priority first. -/
def moversOf (problem : Problem) (blocked : DemandId) (resource : ResourceId) : List Mover :=
  stableSort Mover.key (problem.demands.entries.flatMap fun demand =>
    if demand.1 = blocked then []
    else demand.2.shares.entries.filterMap fun share =>
      if share.2 ≤ 0 then none
      else if (problem.pathOf share.1).resources.contains resource then
        some ⟨demand.1, share.1, share.2, demand.2.derivation.priority⟩
      else none)

/-- What the repair loops carry. -/
structure Repair where
  problem : Problem
  iterations : Nat

/-- The mover's alternatives that avoid the resource, in eligibility order. -/
def relocate (mover : Mover) (resource : ResourceId) (wanted : Int) :
    List PathId → Int → Repair → Int × Repair
  | [], relocated, repair => (relocated, repair)
  | candidate :: rest, relocated, repair =>
      if wanted ≤ relocated then (relocated, repair)
      else if candidate = mover.path then relocate mover resource wanted rest relocated repair
      else if (repair.problem.pathOf candidate).resources.contains resource then
        relocate mover resource wanted rest relocated repair
      else
        let path := repair.problem.pathOf candidate
        let take := min (pathHeadroom repair.problem path) (wanted - relocated)
        let counted := { repair with iterations := repair.iterations + 1 }
        if take ≤ 0 then relocate mover resource wanted rest relocated counted
        else
          relocate mover resource wanted rest (satAdd relocated take)
            { counted with problem := grant repair.problem mover.demand path take }

structure RepairOutcome where
  deficit : Int
  movedAny : Bool
  repair : Repair

def repairMovers (resource : ResourceId) (maxIterations : Nat) :
    List Mover → RepairOutcome → RepairOutcome
  | [], outcome => outcome
  | mover :: rest, outcome =>
      if outcome.deficit ≤ 0 ∨ maxIterations < outcome.repair.iterations then outcome
      else
        let problem := outcome.repair.problem
        let wanted := min outcome.deficit mover.granted
        let (relocated, repair) := relocate mover resource wanted
          (problem.demandOf mover.demand).derivation.eligiblePaths 0 outcome.repair
        if 0 < relocated then
          repairMovers resource maxIterations rest
            { deficit := outcome.deficit - relocated
              movedAny := true
              repair := { repair with
                problem := revoke repair.problem mover.demand (problem.pathOf mover.path) relocated } }
        else repairMovers resource maxIterations rest { outcome with repair := repair }

/-- Whether the deficit was cleared, the note, and the state left behind. -/
def repairResource (repair : Repair) (blocked : DemandId) (resource : ResourceId) (deficit : Int)
    (maxIterations : Nat) : Bool × Text × Repair :=
  let outcome := repairMovers resource maxIterations (moversOf repair.problem blocked resource)
    { deficit := deficit, movedAny := false, repair := repair }
  (decide (outcome.deficit ≤ 0),
    if outcome.movedAny then
      text "relocated lower-priority bandwidth off resource " ++ resource.str
    else [],
    outcome.repair)

/-! Consolidation. -/

/-- Grants to the paths preferred before the source path, up to what it holds. -/
def drainInto (demand : DemandId) (source : PathId) (moveable : Int) :
    List PathId → Int → Problem → Int × Problem
  | [], moved, problem => (moved, problem)
  | target :: rest, moved, problem =>
      if moveable ≤ moved ∨ target = source then (moved, problem)
      else
        let path := problem.pathOf target
        let take := min (pathHeadroom problem path) (moveable - moved)
        if take ≤ 0 then drainInto demand source moveable rest moved problem
        else drainInto demand source moveable rest (satAdd moved take)
          (grant problem demand path take)

def consolidateFrom (demand : DemandId) (preferred : List PathId) :
    List PathId → Problem → Problem
  | [], problem => problem
  | source :: rest, problem =>
      match (problem.demandOf demand).shares.find? source with
      | none => consolidateFrom demand preferred rest problem
      | some moveable =>
          if moveable ≤ 0 then consolidateFrom demand preferred rest problem
          else
            let (moved, drained) := drainInto demand source moveable preferred 0 problem
            consolidateFrom demand preferred rest
              (if 0 < moved then revoke drained demand (problem.pathOf source) moved else drained)

/-- Bounded path-count consolidation, from the least preferred path backwards. -/
def consolidatePaths (problem : Problem) (demand : DemandId) (preferred : List PathId) : Problem :=
  if (problem.demandOf demand).shares.size < 2 then problem
  else consolidateFrom demand preferred preferred.reverse problem

end TrafficFabric
