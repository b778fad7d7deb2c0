import TrafficFabric.Derived

set_option autoImplicit false

namespace TrafficFabric

structure ResourceUtilization where
  resource : ResourceId := default
  generation : Gen .resource := default
  usableCapacity : Int := 0
  committedLoad : Int := 0
  reserved : Int := 0
  available : Int := 0
  allocated : Int := 0
  headroom : Int := 0
  utilizationPermille : Int := 0
  saturated : Bool := false
deriving DecidableEq, Inhabited

/-- One demand's share of one path; `granted` is the authoritative intent. -/
structure PathShare where
  path : PathId := default
  generation : Gen .path := default
  minimum : Int := 0
  desired : Int := 0
  granted : Int := 0
  reserved : Int := 0
  deltaFromIncumbent : Int := 0
  newlyUsed : Bool := false
deriving DecidableEq, Inhabited

structure DemandAllocation where
  demand : DemandId := default
  generation : Gen .demand := default
  minimum : Int := 0
  desired : Int := 0
  maximum : Int := 0
  granted : Int := 0
  reserved : Int := 0
  effective : Int := 0
  observedApplied : Int := 0
  appliedKnown : Bool := false
  shortfallAgainstMinimum : Int := 0
  shortfallAgainstDesired : Int := 0
  shares : List PathShare := []
deriving DecidableEq, Inhabited

structure Allocation where
  demands : List DemandAllocation := []
  resources : List ResourceUtilization := []
  totalGranted : Int := 0
  totalReserved : Int := 0
  degraded : Bool := false
deriving DecidableEq, Inhabited

def Allocation.findDemand (allocation : Allocation) (id : DemandId) : Option DemandAllocation :=
  allocation.demands.find? (fun entry => entry.demand == id)

open Writer in
def Allocation.digest (allocation : Allocation) : Digest :=
  digestWithDomain (text "tef.allocation.v1")
    (sequence (fun demand =>
        str demand.demand.str ++ u64 demand.generation.value ++ i64 demand.minimum ++
        i64 demand.desired ++ i64 demand.maximum ++ i64 demand.granted ++ i64 demand.reserved ++
        i64 demand.effective ++
        sequence (fun share =>
          str share.path.str ++ u64 share.generation.value ++ i64 share.minimum ++
          i64 share.desired ++ i64 share.granted ++ i64 share.reserved) demand.shares)
        allocation.demands ++
      sequence (fun resource =>
        str resource.resource.str ++ u64 resource.generation.value ++ i64 resource.allocated)
        allocation.resources ++
      boolean allocation.degraded)

/-! Independent verification. -/

def violation (kind : ConstraintKind) (subject detail : Text) : BindingConstraint :=
  { kind := kind, subject := subject, detail := detail }

def expectedDemands (derived : Derivation) : OrdMap DemandId DemandDerivation :=
  derived.demands.foldl (fun expected entry => expected.emplace entry.demand entry) OrdMap.empty

/-- The first candidate with the identity. -/
def findPath (snapshot : FabricSnapshot) (id : PathId) : Option PathFacts :=
  (planningPaths snapshot).find? (fun candidate => candidate.id == id)

/-- What the loop over the shares of one entry carries. -/
structure ShareScan where
  violations : List BindingConstraint
  loads : OrdMap ResourceId Int
  shareTotal : Int := 0
  shareReserved : Int := 0
  used : List PathId := []

def ShareScan.report (scan : ShareScan) (violations : List BindingConstraint) : ShareScan :=
  { scan with violations := scan.violations ++ violations }

/-- `per_resource_allocated[resource] = sat_add(...)` along a path. -/
def addLoads (granted : Int) (loads : OrdMap ResourceId Int) (resources : List ResourceId) :
    OrdMap ResourceId Int :=
  resources.foldl (fun loads resource =>
    loads.insert resource (satAdd ((loads.find? resource).getD 0) granted)) loads

def demandSubject (demand : DemandId) : Text := text "demand/" ++ demand.str

def shareSubject (demand : DemandId) (path : PathId) : Text :=
  demandSubject demand ++ text "/path/" ++ path.str

def scanShare (snapshot : FabricSnapshot) (demand : DemandDerivation) (entry : DemandAllocation)
    (before : ShareScan) (share : PathShare) : ShareScan :=
  let negative :=
    if share.granted < 0 then
      [violation .structural (demandSubject entry.demand)
        (text "negative granted bandwidth on path " ++ share.path.str)]
    else []
  let duplicate :=
    if before.used.contains share.path then
      [violation .duplicateIdentity (demandSubject entry.demand)
        (text "duplicate path share for " ++ share.path.str)]
    else []
  let scan := { before.report (negative ++ duplicate) with
    used := share.path :: before.used
    shareTotal := satAdd before.shareTotal share.granted
    shareReserved := satAdd before.shareReserved share.reserved }
  if share.granted == 0 then scan
  else if !demand.eligiblePaths.contains share.path then
    scan.report [violation .pathEligibility (shareSubject entry.demand share.path)
      (text "the allocation uses a path that is not eligible for the demand")]
  else
    match findPath snapshot share.path with
    | none =>
        scan.report [violation .pathEligibility (shareSubject entry.demand share.path)
          (text "the allocation uses a path absent from the candidate set")]
    | some path =>
        if !(share.generation == path.generation) then
          scan.report [violation .pathAuthorityGeneration (shareSubject entry.demand share.path)
            (text "the allocation binds a path generation that is not the current candidate generation")]
        else
          let unauthorized :=
            if !(path.authority.generation == snapshot.pathAuthorityGeneration) then
              [violation .pathAuthorityGeneration (text "path/" ++ share.path.str)
                (text "the candidate path was not authorized under the current path authority generation")]
            else []
          { scan.report unauthorized with
            loads := addLoads share.granted scan.loads path.resources }

/-- The checks on an entry as a whole, after its shares. -/
def entryViolations (degraded : Bool) (demand : DemandDerivation) (entry : DemandAllocation)
    (scan : ShareScan) : List BindingConstraint :=
  let subject := demandSubject entry.demand
  (if scan.shareTotal ≠ entry.granted then
    [violation .structural subject
      (text "the demand granted total does not equal the sum of its path shares")] else []) ++
  (if entry.granted < scan.shareReserved then
    [violation .structural subject (text "reserved bandwidth exceeds granted bandwidth")]
    else []) ++
  (if entry.granted < 0 then
    [violation .structural subject (text "granted bandwidth is negative")] else []) ++
  (if demand.maximum < entry.granted then
    [violation .demandMaximum subject (text "granted bandwidth exceeds the demand maximum")]
    else []) ++
  (if demand.active && !degraded && decide (entry.granted < demand.floor) then
    [violation .demandMinimum subject (text "granted bandwidth is below the demand hard floor")]
    else [])

/-- What the loop over the entries carries. -/
structure EntryScan where
  violations : List BindingConstraint
  loads : OrdMap ResourceId Int

def verifyEntry (snapshot : FabricSnapshot) (expected : OrdMap DemandId DemandDerivation)
    (degraded : Bool) (state : EntryScan) (entry : DemandAllocation) : EntryScan :=
  match expected.find? entry.demand with
  | none => state
  | some demand =>
      if !(entry.generation == demand.generation) then
        { state with
          violations := state.violations ++
            [violation .staleGeneration (demandSubject entry.demand)
              (text "the allocation binds a demand generation that is not current")] }
      else
        let scan := entry.shares.foldl (scanShare snapshot demand entry)
          { violations := state.violations, loads := state.loads }
        { violations := scan.violations ++ entryViolations degraded demand entry scan
          loads := scan.loads }

def unknownDemand (expected : OrdMap DemandId DemandDerivation) (entry : DemandAllocation) :
    List BindingConstraint :=
  if (expected.find? entry.demand).isNone then
    [violation .unknownDemandReference (demandSubject entry.demand)
      (text "the allocation contains a demand that is not in the snapshot")]
  else []

def oversubscribed (loads : OrdMap ResourceId Int) (resource : ResourceResidual) :
    List BindingConstraint :=
  let allocated := (loads.find? resource.resource).getD 0
  if resource.available < allocated then
    [{ violation .resourceCapacity (text "resource/" ++ resource.resource.str)
        (text "allocated bandwidth exceeds the authoritative available capacity") with
      resource := resource.resource
      required := allocated
      available := resource.available
      slack := resource.available - allocated }]
  else []

/-- Re-checks an allocation against the snapshot; empty means verified. -/
def verifyAllocation (snapshot : FabricSnapshot) (allocation : Allocation) :
    List BindingConstraint :=
  match derive snapshot with
  | .error reason =>
      [violation .structural (text "snapshot") (text "derivation failed: " ++ reason.format)]
  | .ok derived =>
      let expected := expectedDemands derived
      let start : EntryScan :=
        { violations := allocation.demands.flatMap (unknownDemand expected)
          loads := OrdMap.empty }
      let scanned := allocation.demands.foldl
        (verifyEntry snapshot expected allocation.degraded) start
      sortConstraints
        (scanned.violations ++ derived.residuals.flatMap (oversubscribed scanned.loads))

end TrafficFabric
