import TrafficFabric.Problem
import TrafficFabric.MaxFlow

set_option autoImplicit false

/- The minimum cut certificate: source to demands at their floors, demands to eligible
paths and paths to resources without a bound, resources to sink at their ceilings. -/
namespace TrafficFabric

structure Certificate where
  built : Bool := false
  feasible : Bool := false
  achievable : Int := 0
  required : Int := 0
  onlyPathStarved : Bool := false
  saturatedResources : List ResourceId := []
  unreachableDemands : List DemandId := []
deriving DecidableEq, Inhabited

/-! Demands. -/

/-- Active demands with a floor to meet. -/
def needingDemands (derived : Derivation) : List DemandDerivation :=
  derived.demands.filter fun demand => demand.active && decide (0 < demand.floor)

def starvedDemands (derived : Derivation) : List DemandDerivation :=
  (needingDemands derived).filter fun demand => demand.eligiblePaths.isEmpty

def routedDemands (derived : Derivation) : List DemandDerivation :=
  (needingDemands derived).filter fun demand => !demand.eligiblePaths.isEmpty

def requiredTotal (derived : Derivation) : Int :=
  (needingDemands derived).foldl (fun total demand => satAdd total demand.floor) 0

def usedPaths (demands : List DemandDerivation) : List PathId :=
  sortUnique id (demands.flatMap DemandDerivation.eligiblePaths)

/-! Nodes. Node 0 is the source and node 1 the sink. -/

/-- `nodes[key] = network.add_node()` for each key in turn. -/
def numberNodes {K : Type} [LinearOrder K] (keys : List K) (start : Nat) : OrdMap K Nat :=
  (keys.zipIdx start).foldl (fun nodes entry => nodes.insert entry.1 entry.2) OrdMap.empty

def nodeOf {K : Type} [LinearOrder K] (nodes : OrdMap K Nat) (key : K) : Nat :=
  (nodes.find? key).getD 0

structure CertificateNodes where
  demands : OrdMap DemandId Nat
  paths : OrdMap PathId Nat
  resources : OrdMap ResourceId Nat

def certificateNodes (demands : List DemandDerivation) (paths : List PathId)
    (resources : List ResourceId) : CertificateNodes :=
  { demands := numberNodes (demands.map DemandDerivation.demand) 2
    paths := numberNodes paths (2 + demands.length)
    resources := numberNodes resources (2 + demands.length + paths.length) }

/-! Arcs, in the order in which they are added. -/

structure Arc where
  source : Nat
  target : Nat
  capacity : Int

def sourceArc (nodes : CertificateNodes) (demand : DemandDerivation) : Arc :=
  ⟨0, nodeOf nodes.demands demand.demand, demand.floor⟩

def eligibilityArcs (nodes : CertificateNodes) (demand : DemandDerivation) : List Arc :=
  demand.eligiblePaths.map fun path =>
    ⟨nodeOf nodes.demands demand.demand, nodeOf nodes.paths path, kInfinite⟩

def pathArcs (problem : Problem) (nodes : CertificateNodes) (path : PathId) : List Arc :=
  (problem.pathOf path).resources.map fun resource =>
    ⟨nodeOf nodes.paths path, nodeOf nodes.resources resource, kInfinite⟩

def sinkArc (nodes : CertificateNodes) (entry : ResourceId × Int) : Arc :=
  ⟨nodeOf nodes.resources entry.1, 1, entry.2⟩

/-- `recompute_ceiling` on a copy of each resource. -/
def ceilingsAt (problem : Problem) (permille : Int) : OrdMap ResourceId Int :=
  problem.resources.mapValues fun resource => (recomputeCeiling resource permille).ceiling

/-- The ceiling of a resource under a utilisation ceiling. -/
def ceilingAt (problem : Problem) (permille : Int) (resource : ResourceId) : Int :=
  ((ceilingsAt problem permille).find? resource).getD 0

namespace Problem

def nodeBudget (problem : Problem) : Nat :=
  2 + (routedDemands problem.derivation).length +
    (usedPaths (routedDemands problem.derivation)).length + problem.resources.size

def nodes (problem : Problem) : CertificateNodes :=
  certificateNodes (routedDemands problem.derivation) (usedPaths (routedDemands problem.derivation))
    problem.resources.keys

/-- The arcs the edge budget counts. -/
def countedArcs (problem : Problem) : List Arc :=
  (routedDemands problem.derivation).flatMap
      (fun demand => sourceArc problem.nodes demand :: eligibilityArcs problem.nodes demand) ++
    (usedPaths (routedDemands problem.derivation)).flatMap (pathArcs problem problem.nodes)

def arcs (problem : Problem) (permille : Int) : List Arc :=
  problem.countedArcs ++ (ceilingsAt problem permille).entries.map (sinkArc problem.nodes)

end Problem

def emptyNetwork : Nat → Adjacency
  | 0 => []
  | nodes + 1 => (emptyNetwork nodes).addNode

def addArcs (net : Adjacency) (arcs : List Arc) : Adjacency :=
  arcs.foldl (fun net arc => net.addEdge arc.source arc.target arc.capacity) net

/-- Reads off the minimum cut when the flow falls short. -/
def readCut (nodes : CertificateNodes) (residual : Adjacency) (certificate : Certificate) :
    Certificate :=
  let reachable := FlowNetwork.sourceSide residual 0
  let cutOff := fun node => !reachable.getD node false
  { certificate with
    saturatedResources := stableSort id
      ((nodes.resources.entries.filter fun entry => cutOff entry.2).map Prod.fst)
    unreachableDemands := stableSort id (certificate.unreachableDemands ++
      (nodes.demands.entries.filter fun entry => cutOff entry.2).map Prod.fst) }

/-- What is known of the certificate before the network is built. -/
def certificateBase (derived : Derivation) : Certificate :=
  { required := requiredTotal derived
    onlyPathStarved := !(starvedDemands derived).isEmpty
    unreachableDemands := (starvedDemands derived).map DemandDerivation.demand }

def certify (problem : Problem) (permille : Int) : Certificate :=
  let derived := problem.derivation
  let base := certificateBase derived
  if (routedDemands derived).isEmpty then
    { base with built := true, feasible := (starvedDemands derived).isEmpty }
  else if Limits.maxCertificateNodes < problem.nodeBudget then base
  -- Every demand here has an eligible path, so the count taken at the last edge of the
  -- two loops is the one that decides.
  else if Limits.maxCertificateEdges < problem.countedArcs.length then base
  else
    let network := addArcs (emptyNetwork problem.nodeBudget) (problem.arcs permille)
    match FlowNetwork.maxFlow network 0 1 Limits.maxSolverIterations with
    | none => base
    | some (flow, residual) =>
        if flow < 0 then base
        else
          let measured := { base with
            built := true
            achievable := flow
            feasible := decide (base.required ≤ flow) }
          if measured.feasible then measured else readCut problem.nodes residual measured

end TrafficFabric
