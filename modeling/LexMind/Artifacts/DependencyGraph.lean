import LexMind.Lib.Digraph
import LexMind.Python

set_option autoImplicit false

namespace LexMind.Artifacts

open Lib Relation

structure ArtifactDependency where
  parentId : String
  childId : String
  relationship : String
  pipelineStage : String
deriving DecidableEq, Repr

/-- A `set` of ids. -/
abbrev IdSet := Keyed (id : String → String)

/-- A `dict` from an id to a set of ids. -/
abbrev Adjacency := Keyed (Prod.fst : String × IdSet → String)

namespace Adjacency

/-- `get(node, set())`. -/
def successors (adjacency : Adjacency) (node : String) : IdSet :=
  ((adjacency.find? node).map Prod.snd).getD .empty

def keys (adjacency : Adjacency) : List String := adjacency.rows.map Prod.fst

/-- `setdefault(node, set()).add(other)`. -/
def link (adjacency : Adjacency) (node other : String) : Adjacency :=
  adjacency.put (node, (adjacency.successors node).put other)

/-- `get(node, set()).discard(other)`: without the key a temporary set is changed. -/
def discard (adjacency : Adjacency) (other node : String) : Adjacency :=
  match adjacency.find? node with
  | some (key, set) => adjacency.put (key, set.erase other)
  | none => adjacency

end Adjacency

structure DependencyGraph where
  edges : Adjacency
  reverse : Adjacency
  metadata : Keyed (Prod.fst : String × ArtifactDependency → String)

/-- In which order Python happens to iterate over a set: that of all artifacts, and
that of the children or parents of each one. -/
structure SetOrder where
  artifacts : Arrangement String
  neighbours : String → Arrangement String

def SetOrder.asStored : SetOrder := ⟨.asStored, fun _ => .asStored⟩

/-- `in_degree`, a dictionary of counters. -/
abbrev Degrees := Keyed (Prod.fst : String × Int → String)

namespace DependencyGraph

def empty : DependencyGraph := ⟨.empty, .empty, .empty⟩

def children (graph : DependencyGraph) (artifactId : String) : IdSet :=
  graph.edges.successors artifactId

def parents (graph : DependencyGraph) (artifactId : String) : IdSet :=
  graph.reverse.successors artifactId

def allArtifacts (graph : DependencyGraph) : List String :=
  (graph.edges.keys ++ graph.reverse.keys).dedup

def roots (graph : DependencyGraph) : List String :=
  graph.allArtifacts.filter (· ∉ graph.reverse.keys)

def leaves (graph : DependencyGraph) : List String :=
  graph.allArtifacts.filter (· ∉ graph.edges.keys)

/-- The children of a node in the order in which the loop extends its stack with them;
the last one is popped first. -/
def stacked (graph : DependencyGraph) (order : SetOrder) (node : String) : List String :=
  ((order.neighbours node).arrange (graph.children node).rows).reverse

def edgeCount (graph : DependencyGraph) : Nat :=
  (graph.edges.rows.map (fun row => row.2.rows.length)).sum

/-- One iteration for the start and one for each edge are enough, as `wouldCreateCycle_iff`
shows. -/
def wouldCreateCycle (graph : DependencyGraph) (order : SetOrder) (parent child : String) : Bool :=
  search (graph.stacked order) parent (1 + graph.edgeCount) [] [child] = some true

def metadataKey (parent child : String) : String := parent ++ "->" ++ child

def add (order : SetOrder) (dep : ArtifactDependency) : Py DependencyGraph Unit := do
  if dep.parentId = dep.childId then
    throw (.valueError "Self-dependency is not allowed")
  if (← get).wouldCreateCycle order dep.parentId dep.childId then
    throw (.valueError ("Adding " ++ dep.parentId ++ " -> " ++ dep.childId
      ++ " would create a cycle"))
  modify (fun graph => { graph with edges := graph.edges.link dep.parentId dep.childId })
  modify (fun graph => { graph with reverse := graph.reverse.link dep.childId dep.parentId })
  modify (fun graph => { graph with
    metadata := graph.metadata.put (metadataKey dep.parentId dep.childId, dep) })

/-- Whether `remove` drops the metadata under a key. -/
def mentions (artifactId key : String) : Bool :=
  (artifactId ++ "->").toList.isPrefixOf key.toList ∨ ("->" ++ artifactId).toList.isSuffixOf key.toList

def remove (order : SetOrder) (artifactId : String) : Py DependencyGraph Unit := do
  let children := (order.neighbours artifactId).arrange ((← get).children artifactId).rows
  modify (fun graph => { graph with edges := graph.edges.erase artifactId })
  modify (fun graph => { graph with
    reverse := children.foldl (fun reverse child => reverse.discard artifactId child) graph.reverse })
  let parents := (order.neighbours artifactId).arrange ((← get).parents artifactId).rows
  modify (fun graph => { graph with reverse := graph.reverse.erase artifactId })
  modify (fun graph => { graph with
    edges := parents.foldl (fun edges parent => edges.discard artifactId parent) graph.edges })
  modify (fun graph => { graph with
    metadata := (graph.metadata.rows.filter (fun row => mentions artifactId row.1)).foldl
      (fun metadata row => metadata.erase row.1) graph.metadata })

/-- `in_degree` before the loop: every artifact, counted once for each edge into it. -/
def inDegree (graph : DependencyGraph) (order : SetOrder) : Degrees :=
  let zero : Degrees := (order.artifacts.arrange graph.allArtifacts).foldl
    (fun degrees artifact => degrees.put (artifact, 0)) .empty
  (graph.edges.rows.flatMap (fun row => (order.neighbours row.1).arrange row.2.rows)).foldl
    (fun degrees child =>
      degrees.put (child, ((degrees.find? child).map Prod.snd).getD 0 + 1)) zero

/-- The inner loop: count one finished parent for each child, and queue the children
that have none left. -/
def relax : List String → Degrees × List String → Except PyExc (Degrees × List String)
  | [], state => .ok state
  | child :: rest, (degrees, queue) =>
      match degrees.find? child with
      | none => .error (.keyError child)
      | some (_, degree) =>
          relax rest (degrees.put (child, degree - 1),
            if degree - 1 = 0 then queue ++ [child] else queue)

/-- The loop over the queue. It finishes one artifact in each iteration, so that one
iteration for each artifact is enough. -/
def drainQueue (graph : DependencyGraph) (order : SetOrder) :
    Nat → Degrees × List String → List String → Except PyExc (List String)
  | _, (_, []), result => .ok result
  | 0, (_, _ :: _), result => .ok result
  | fuel + 1, (degrees, node :: queue), result =>
      match relax ((order.neighbours node).arrange (graph.children node).rows) (degrees, queue) with
      | .ok state => drainQueue graph order fuel state (result ++ [node])
      | .error exc => .error exc

def topologicalOrder (graph : DependencyGraph) (order : SetOrder) : Except PyExc (List String) := do
  let degrees := graph.inDegree order
  let queue := (degrees.rows.filter (fun row => row.2 = 0)).map Prod.fst
  let result ← drainQueue graph order degrees.rows.length (degrees, queue) []
  if result.length ≠ degrees.rows.length then
    throw (.valueError "Cycle detected in dependency graph")
  return result

end DependencyGraph

end LexMind.Artifacts
