import LexMind.Artifacts.DependencyGraph
import LexMind.Lib.Run

set_option autoImplicit false

namespace LexMind.Artifacts

open Lib Relation

namespace Adjacency

variable (adjacency : Adjacency) (node other key x : String)

theorem mem_keys : node ∈ adjacency.keys ↔ ∃ set, adjacency.find? node = some (node, set) := by
  unfold keys
  rw [List.mem_map]
  constructor
  · rintro ⟨⟨key, set⟩, inside, rfl⟩
    exact ⟨set, adjacency.find?_of_mem inside⟩
  · rintro ⟨set, found⟩
    exact ⟨(node, set), Keyed.mem_of_find? found, rfl⟩

theorem successors_of_find? {set : IdSet} (found : adjacency.find? node = some (node, set)) :
    adjacency.successors node = set := by
  simp [successors, found]

theorem mem_keys_of_mem (inside : x ∈ (adjacency.successors node).rows) : node ∈ adjacency.keys := by
  unfold successors at inside
  cases found : adjacency.find? node with
  | none => simp [found] at inside
  | some row =>
      have same : row.1 = node := Keyed.key_of_find? found
      exact (mem_keys adjacency node).mpr ⟨row.2, by rw [found, ← same]⟩

theorem mem_link : x ∈ ((adjacency.link node other).successors key).rows ↔
    x ∈ (adjacency.successors key).rows ∨ key = node ∧ x = other := by
  unfold successors link
  rw [Keyed.find?_put]
  by_cases same : node = key
  · subst same
    simp [Keyed.mem_put, successors]
    tauto
  · simp [same, Ne.symm same]

theorem mem_discard : x ∈ ((adjacency.discard other node).successors key).rows ↔
    x ∈ (adjacency.successors key).rows ∧ ¬ (key = node ∧ x = other) := by
  unfold discard
  cases found : adjacency.find? node with
  | none =>
      constructor
      · refine fun inside => ⟨inside, ?_⟩
        rintro ⟨rfl, rfl⟩
        simp [successors, found] at inside
      · exact fun inside => inside.1
  | some row =>
      obtain ⟨name, set⟩ := row
      have named : name = node := Keyed.key_of_find? found
      subst named
      simp only [successors, Keyed.find?_put]
      by_cases same : name = key
      · subst same
        simp [found]
      · simp [same, Ne.symm same]

theorem mem_foldl_discard (nodes : List String) :
    x ∈ ((nodes.foldl (fun before node => before.discard other node) adjacency).successors key).rows ↔
      x ∈ (adjacency.successors key).rows ∧ ¬ (key ∈ nodes ∧ x = other) := by
  induction nodes generalizing adjacency with
  | nil => simp
  | cons first rest ih =>
      rw [List.foldl_cons, ih, mem_discard, List.mem_cons]
      tauto

theorem mem_erase : x ∈ (successors (adjacency.erase node) key).rows ↔
    x ∈ (adjacency.successors key).rows ∧ key ≠ node := by
  simp only [successors, Keyed.find?_erase]
  by_cases same : key = node <;> simp [same]

end Adjacency

namespace DependencyGraph

/-- The edges as `_edges` has them. -/
def Edge (graph : DependencyGraph) (parent child : String) : Prop :=
  child ∈ (graph.children parent).rows

/-- The two maps agree and describe no cycle. -/
structure Sound (graph : DependencyGraph) : Prop where
  transposed : ∀ parent child, graph.Edge parent child ↔ parent ∈ (graph.parents child).rows
  acyclic : Acyclic graph.Edge

theorem sound_empty : empty.Sound where
  transposed := fun parent child => by simp [Edge, children, parents, empty, Adjacency.successors]
  acyclic := fun node cycle => by
    obtain ⟨_, edge⟩ := TransGen.tail'_iff.mp cycle
    simp [Edge, children, empty, Adjacency.successors] at edge

theorem mem_stacked (graph : DependencyGraph) (order : SetOrder) (parent child : String) :
    child ∈ graph.stacked order parent ↔ graph.Edge parent child := by
  simp [stacked, Edge]

theorem unexplored_stacked (graph : DependencyGraph) (order : SetOrder) :
    unexplored (graph.stacked order) graph.edges.keys [] = graph.edgeCount := by
  have lengths : graph.edges.rows.map (fun row => (graph.stacked order row.1).length) =
      graph.edges.rows.map (fun row => row.2.rows.length) :=
    List.map_congr_left (fun row inside => by
      have found := graph.edges.find?_of_mem inside
      simp [stacked, children, Adjacency.successors, found,
        ((order.neighbours row.1).perm _).length_eq])
  simp only [unexplored, edgeCount, Adjacency.keys, List.not_mem_nil, not_false_eq_true,
    decide_true, List.filter_true, List.map_map]
  exact congrArg List.sum lengths

/-- The walk over `_edges` finds the parent exactly when the child reaches it. -/
theorem wouldCreateCycle_iff (graph : DependencyGraph) (order : SetOrder) (parent child : String) :
    graph.wouldCreateCycle order parent child = true ↔ ReflTransGen graph.Edge child parent := by
  have same : (fun first second => second ∈ graph.stacked order first) = graph.Edge :=
    funext (fun first => funext (fun second => propext (graph.mem_stacked order first second)))
  have known : ∀ node, graph.stacked order node ≠ [] → node ∈ graph.edges.keys := by
    intro node some
    obtain ⟨child, inside⟩ := List.exists_mem_of_ne_nil _ some
    exact Adjacency.mem_keys_of_mem _ _ _ ((graph.mem_stacked order node child).mp inside)
  rw [wouldCreateCycle, decide_eq_true_eq, ← same]
  exact search_eq_true_iff graph.edges.distinct known
    (Nat.le_of_eq (congrArg (1 + ·) (graph.unexplored_stacked order))) child

/-- The graph with one more edge. -/
def linked (graph : DependencyGraph) (dep : ArtifactDependency) : DependencyGraph where
  edges := graph.edges.link dep.parentId dep.childId
  reverse := graph.reverse.link dep.childId dep.parentId
  metadata := graph.metadata.put (metadataKey dep.parentId dep.childId, dep)

/-- `add` raises and changes nothing, or links two ids that close no cycle. -/
theorem add_cases (graph : DependencyGraph) (order : SetOrder) (dep : ArtifactDependency) :
    (∃ message, call (add order dep) graph = (.error (.valueError message), graph) ∧
      (dep.parentId = dep.childId ∨ ReflTransGen graph.Edge dep.childId dep.parentId)) ∨
    call (add order dep) graph = (.ok (), graph.linked dep) ∧ dep.parentId ≠ dep.childId ∧
      ¬ ReflTransGen graph.Edge dep.childId dep.parentId := by
  have cycle := graph.wouldCreateCycle_iff order dep.parentId dep.childId
  by_cases self : dep.parentId = dep.childId
  · exact .inl ⟨_, by simp [add, self]; rfl, .inl self⟩
  · by_cases closes : graph.wouldCreateCycle order dep.parentId dep.childId = true
    · exact .inl ⟨_, by simp [add, self, closes]; rfl, .inr (cycle.mp closes)⟩
    · exact .inr ⟨by simp [add, self, closes, linked], self, fun path => closes (cycle.mpr path)⟩

theorem linked_edge (graph : DependencyGraph) (dep : ArtifactDependency) (parent child : String) :
    (graph.linked dep).Edge parent child ↔
      graph.Edge parent child ∨ parent = dep.parentId ∧ child = dep.childId :=
  Adjacency.mem_link graph.edges dep.parentId dep.childId parent child

theorem Sound.linked {graph : DependencyGraph} (sound : graph.Sound) {dep : ArtifactDependency}
    (clear : ¬ ReflTransGen graph.Edge dep.childId dep.parentId) : (graph.linked dep).Sound where
  transposed := fun parent child => by
    rw [linked_edge, sound.transposed]
    exact (or_congr Iff.rfl and_comm).trans
      (Adjacency.mem_link graph.reverse dep.childId dep.parentId child parent).symm
  acyclic := (sound.acyclic.insert clear).mono
    (fun parent child edge => (graph.linked_edge dep parent child).mp edge)

/-- The graph `remove` leaves. -/
def removed (graph : DependencyGraph) (order : SetOrder) (artifactId : String) : DependencyGraph :=
  (call (remove order artifactId) graph).2

theorem call_remove (graph : DependencyGraph) (order : SetOrder) (artifactId : String) :
    call (remove order artifactId) graph = (.ok (), graph.removed order artifactId) := by
  simp [removed, remove]

theorem removed_reverse (graph : DependencyGraph) (order : SetOrder) (artifactId : String) :
    (graph.removed order artifactId).reverse =
      (((order.neighbours artifactId).arrange (graph.children artifactId).rows).foldl
        (fun reverse child => reverse.discard artifactId child) graph.reverse).erase artifactId := by
  simp [removed, remove]

/-- The second loop runs over what the first one has left of the parents. -/
theorem removed_edges (graph : DependencyGraph) (order : SetOrder) (artifactId : String) :
    (graph.removed order artifactId).edges =
      ((order.neighbours artifactId).arrange (Adjacency.successors
        (((order.neighbours artifactId).arrange (graph.children artifactId).rows).foldl
          (fun reverse child => reverse.discard artifactId child) graph.reverse)
        artifactId).rows).foldl
        (fun (edges : Adjacency) parent => edges.discard artifactId parent)
        (graph.edges.erase artifactId) := by
  simp [removed, remove, parents]

theorem removed_metadata (graph : DependencyGraph) (order : SetOrder) (artifactId : String) :
    (graph.removed order artifactId).metadata =
      (graph.metadata.rows.filter (fun row => mentions artifactId row.1)).foldl
        (fun metadata row => metadata.erase row.1) graph.metadata := by
  simp [removed, remove]

theorem mem_removed_parents (graph : DependencyGraph) (order : SetOrder)
    (artifactId parent child : String) :
    parent ∈ ((graph.removed order artifactId).parents child).rows ↔
      parent ∈ (graph.parents child).rows ∧ child ≠ artifactId ∧
        ¬ (graph.Edge artifactId child ∧ parent = artifactId) := by
  rw [parents, removed_reverse, Adjacency.mem_erase, Adjacency.mem_foldl_discard, Arrangement.mem_arrange]
  simp only [parents, Edge]
  tauto

theorem mem_removed_children (graph : DependencyGraph) (order : SetOrder)
    (artifactId parent child : String) :
    (graph.removed order artifactId).Edge parent child ↔
      graph.Edge parent child ∧ parent ≠ artifactId ∧
        ¬ ((parent ∈ (graph.parents artifactId).rows ∧
          ¬ (graph.Edge artifactId artifactId ∧ parent = artifactId)) ∧ child = artifactId) := by
  rw [Edge, children, removed_edges, Adjacency.mem_foldl_discard, Adjacency.mem_erase,
    Arrangement.mem_arrange, Adjacency.mem_foldl_discard, Arrangement.mem_arrange]
  simp only [parents, Edge, children]
  tauto

/-- `remove` takes out exactly the edges at the artifact, on both sides. -/
theorem Sound.removed_edge {graph : DependencyGraph} (sound : graph.Sound) (order : SetOrder)
    (artifactId parent child : String) :
    (graph.removed order artifactId).Edge parent child ↔
      graph.Edge parent child ∧ parent ≠ artifactId ∧ child ≠ artifactId := by
  rw [mem_removed_children]
  constructor
  · rintro ⟨edge, source, kept⟩
    refine ⟨edge, source, ?_⟩
    rintro rfl
    exact kept ⟨⟨(sound.transposed parent child).mp edge, fun loop => source loop.2⟩, rfl⟩
  · rintro ⟨edge, source, target⟩
    exact ⟨edge, source, fun kept => target kept.2⟩

theorem Sound.removed {graph : DependencyGraph} (sound : graph.Sound) (order : SetOrder)
    (artifactId : String) : (graph.removed order artifactId).Sound where
  transposed := fun parent child => by
    rw [sound.removed_edge, mem_removed_parents, sound.transposed]
    constructor
    · rintro ⟨edge, source, target⟩
      exact ⟨edge, target, fun kept => source kept.2⟩
    · rintro ⟨edge, target, kept⟩
      refine ⟨edge, ?_, target⟩
      rintro rfl
      exact kept ⟨(sound.transposed parent child).mpr edge, rfl⟩
  acyclic := sound.acyclic.mono
    (fun parent child edge => ((sound.removed_edge order artifactId parent child).mp edge).1)

variable {graph : DependencyGraph}

theorem mem_allArtifacts (node : String) :
    node ∈ graph.allArtifacts ↔ node ∈ graph.edges.keys ∨ node ∈ graph.reverse.keys := by
  simp [allArtifacts]

/-- Every edge has both its ends among the artifacts. -/
theorem Sound.listed (sound : graph.Sound) {parent child : String} (edge : graph.Edge parent child) :
    parent ∈ graph.allArtifacts ∧ child ∈ graph.allArtifacts :=
  ⟨(mem_allArtifacts parent).mpr (.inl (Adjacency.mem_keys_of_mem _ _ _ edge)),
    (mem_allArtifacts child).mpr (.inr
      (Adjacency.mem_keys_of_mem _ _ _ ((sound.transposed parent child).mp edge)))⟩

end DependencyGraph

/-- A call on the graph, with the set orders of that call. -/
inductive GraphCall
  | add (order : SetOrder) (dep : ArtifactDependency)
  | remove (order : SetOrder) (artifactId : String)

def GraphCall.program : GraphCall → Py DependencyGraph Unit
  | .add order dep => DependencyGraph.add order dep
  | .remove order artifactId => DependencyGraph.remove order artifactId

def graphStep (graph : DependencyGraph) (graphCall : GraphCall) :
    Except PyExc Unit × DependencyGraph :=
  call graphCall.program graph

theorem graphStep_sound (graph : DependencyGraph) (graphCall : GraphCall) (sound : graph.Sound) :
    (graphStep graph graphCall).2.Sound := by
  cases graphCall with
  | add order dep =>
      rcases graph.add_cases order dep with ⟨message, refused, _⟩ | ⟨added, _, clear⟩
      · rw [graphStep, GraphCall.program, refused]
        exact sound
      · rw [graphStep, GraphCall.program, added]
        exact sound.linked clear
  | remove order artifactId =>
      rw [graphStep, GraphCall.program, DependencyGraph.call_remove]
      exact sound.removed order artifactId

theorem graph_sound (calls : List GraphCall) : (run graphStep DependencyGraph.empty calls).2.Sound :=
  run_invariant graphStep_sound DependencyGraph.sound_empty calls

end LexMind.Artifacts
