import LexMind.Artifacts.GraphInvariant
import LexMind.Lib.BreadthFirst

set_option autoImplicit false

namespace LexMind.Artifacts

open Lib Relation

/-- Tracks the provenance chain over a dependency graph. -/
structure LineageTracker where
  graph : DependencyGraph

namespace LineageTracker

variable (tracker : LineageTracker) (order : SetOrder)

/-- The parents in the order in which the set is iterated over. -/
def parentsOf (node : String) : List String :=
  (order.neighbours node).arrange (tracker.graph.parents node).rows

def childrenOf (node : String) : List String :=
  (order.neighbours node).arrange (tracker.graph.children node).rows

/-- One iteration for the start and one for each artifact; `ancestors_spec` shows that they are
enough. The visited set holds what the result lists. -/
def ancestors (artifactId : String) : Option (List String) :=
  breadthFirst (tracker.parentsOf order) (tracker.graph.allArtifacts.length + 1) [artifactId] []

def descendants (artifactId : String) : Option (List String) :=
  breadthFirst (tracker.childrenOf order) (tracker.graph.allArtifacts.length + 1) [artifactId] []

variable {tracker}

theorem mem_childrenOf (parent child : String) :
    child ∈ tracker.childrenOf order parent ↔ tracker.graph.Edge parent child := by
  simp [childrenOf, DependencyGraph.Edge]

theorem mem_parentsOf (sound : tracker.graph.Sound) (parent child : String) :
    parent ∈ tracker.parentsOf order child ↔ tracker.graph.Edge parent child := by
  simp [parentsOf, sound.transposed]

theorem descendants_spec (sound : tracker.graph.Sound) (artifactId : String) :
    ∃ found, tracker.descendants order artifactId = some found ∧ found.Nodup ∧
      ∀ other, other ∈ found ↔ TransGen tracker.graph.Edge artifactId other := by
  have same : (fun first second => second ∈ tracker.childrenOf order first) =
      tracker.graph.Edge :=
    funext (fun first => funext (fun second => propext (mem_childrenOf order first second)))
  rw [← same]
  apply breadthFirst_spec _ (Nat.lt_succ_self _)
  intro node other inside
  exact (sound.listed ((mem_childrenOf order node other).mp inside)).2

/-- The walk over `_reverse` follows the edges backwards. -/
theorem ancestors_spec (sound : tracker.graph.Sound) (artifactId : String) :
    ∃ found, tracker.ancestors order artifactId = some found ∧ found.Nodup ∧
      ∀ other, other ∈ found ↔ TransGen tracker.graph.Edge other artifactId := by
  have same : (fun first second => second ∈ tracker.parentsOf order first) =
      Function.swap tracker.graph.Edge :=
    funext (fun first => funext (fun second => propext (mem_parentsOf order sound second first)))
  have listed : ∀ node, ∀ other ∈ tracker.parentsOf order node,
      other ∈ tracker.graph.allArtifacts := by
    intro node other inside
    exact (sound.listed ((mem_parentsOf order sound other node).mp inside)).1
  obtain ⟨found, returned, distinct, exact⟩ :=
    breadthFirst_spec listed (Nat.lt_succ_self _) artifactId
  refine ⟨found, returned, distinct, fun other => ?_⟩
  rw [exact other, same, transGen_swap]

end LineageTracker

/-- In every state that a graph reaches, the walk up lists exactly what leads to an artifact, and
the walk down what it leads to, each once and without itself. -/
theorem lineage_reachability (graphCalls : List GraphCall) (order order' : SetOrder)
    (first last : String) :
    let tracker : LineageTracker := ⟨(run graphStep DependencyGraph.empty graphCalls).2⟩
    ∃ above below, tracker.ancestors order last = some above ∧
      tracker.descendants order' first = some below ∧
      (above.Nodup ∧ last ∉ above ∧
        (first ∈ above ↔ TransGen tracker.graph.Edge first last)) ∧
      (below.Nodup ∧ first ∉ below ∧
        (last ∈ below ↔ TransGen tracker.graph.Edge first last)) ∧
      (first ∈ above ↔ last ∈ below) := by
  intro tracker
  have sound : tracker.graph.Sound := graph_sound graphCalls
  obtain ⟨above, up, distinct, leads⟩ := LineageTracker.ancestors_spec order sound last
  obtain ⟨below, down, distinct', led⟩ := LineageTracker.descendants_spec order' sound first
  refine ⟨above, below, up, down, ⟨distinct, ?_, leads first⟩, ⟨distinct', ?_, led last⟩, ?_⟩
  · exact fun inside => sound.acyclic last ((leads last).mp inside)
  · exact fun inside => sound.acyclic first ((led first).mp inside)
  · exact (leads first).trans (led last).symm

end LexMind.Artifacts
