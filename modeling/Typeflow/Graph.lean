import Typeflow.Dictionary

/-!
Cycles of finite directed graphs. A depth-first search from the given nodes reports one cycle for
every edge that leads back to the path it is on, as the part of the path from that node onwards.
The result depends only on the order of the nodes and of the edges.
-/

namespace Typeflow

/-- Nodes with their successors in order. A node without an entry has none. -/
structure Graph (κ : Type) where
  adjacency : List (κ × List κ)

namespace Graph

variable {κ : Type} [DecidableEq κ]

def successors (graph : Graph κ) (node : κ) : List κ :=
  match graph.adjacency.find? (·.1 = node) with
  | some (_, targets) => targets
  | none => []

def addEdge (graph : Graph κ) (source target : κ) : Graph κ :=
  if graph.adjacency.any (·.1 = source) then
    ⟨graph.adjacency.map fun (node, targets) =>
      if node = source then (node, targets ++ [target]) else (node, targets)⟩
  else ⟨graph.adjacency ++ [(source, [target])]⟩

def sources (graph : Graph κ) : List κ := graph.adjacency.map (·.1)

/-- The state of a search: the nodes entered so far, the path it is on, the place of each node of
the path, and the cycles found so far. -/
structure Search (κ : Type) where
  visited : Dictionary κ Bool
  stack : List κ
  onStack : Dictionary κ Nat
  cycles : List (List κ)

namespace Search

def start : Search κ := ⟨.empty, [], .empty, []⟩

def enter (search : Search κ) (node : κ) : Search κ :=
  { search with
    visited := search.visited.set node true
    onStack := search.onStack.set node search.stack.length
    stack := search.stack ++ [node] }

def leave (search : Search κ) (node : κ) : Search κ :=
  { search with stack := search.stack.dropLast, onStack := search.onStack.erase node }

end Search

/-- Visits `node`. A path has no node twice and all its nodes have edges, so it is never longer
than the adjacency and `fuel` above that is never used up. -/
def visit (graph : Graph κ) : Nat → κ → Search κ → Search κ
  | 0, _, search => search
  | fuel + 1, node, search =>
    match search.onStack.get? node with
    | some place => { search with cycles := search.cycles ++ [search.stack.drop place] }
    | none =>
      if search.visited.value node then search
      else
        let search := (graph.successors node).foldl
          (fun search next => graph.visit fuel next search) (search.enter node)
        search.leave node

/-- The cycles that back edges close when the graph is searched from `nodes` in order. -/
def cyclesFrom (graph : Graph κ) (nodes : List κ) : List (List κ) :=
  (nodes.foldl (fun search node => graph.visit (graph.adjacency.length + 1) node search)
    Search.start).cycles

end Graph

end Typeflow
