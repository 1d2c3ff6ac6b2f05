import LexMind.Artifacts.GraphInvariant
import Mathlib.Logic.ExistsUnique

set_option autoImplicit false

namespace LexMind.Artifacts

open Lib Relation

namespace Adjacency

variable (adjacency : Adjacency) (node other key : String)

/-- Taking an id out of a set leaves the set, empty or not, under its key. -/
theorem mem_keys_discard : key ∈ (adjacency.discard other node).keys ↔ key ∈ adjacency.keys := by
  unfold discard
  cases found : adjacency.find? node with
  | none => exact Iff.rfl
  | some row =>
      have named : row.1 = node := Keyed.key_of_find? found
      subst named
      simp only [mem_keys, Keyed.find?_put]
      by_cases same : row.1 = key
      · subst same
        simp only [↓reduceIte, found]
        exact iff_of_true ⟨_, rfl⟩ ⟨_, rfl⟩
      · simp only [same, ↓reduceIte]

theorem mem_keys_foldl_discard (nodes : List String) :
    key ∈ (nodes.foldl (fun before node => before.discard other node) adjacency).keys ↔
      key ∈ adjacency.keys := by
  induction nodes generalizing adjacency with
  | nil => exact Iff.rfl
  | cons first rest ih => rw [List.foldl_cons, ih, mem_keys_discard]

theorem mem_keys_erase : key ∈ keys (adjacency.erase node) ↔ key ∈ adjacency.keys ∧ key ≠ node := by
  simp only [mem_keys, Keyed.find?_erase]
  by_cases same : key = node <;> simp [same]

end Adjacency

namespace DependencyGraph

theorem find?_foldl_erase {ν : Type} (rows : List (String × ν))
    (table : Keyed (Prod.fst : String × ν → String)) (key : String) :
    (rows.foldl (fun table row => table.erase row.1) table).find? key =
      if key ∈ rows.map Prod.fst then none else table.find? key := by
  induction rows generalizing table with
  | nil => rfl
  | cons row rest ih =>
      rw [List.foldl_cons, ih, Keyed.find?_erase, List.map_cons]
      by_cases later : key ∈ rest.map Prod.fst
      · rw [if_pos later, if_pos (List.mem_cons_of_mem _ later)]
      · by_cases same : key = row.1
        · rw [if_neg later, if_pos same, if_pos (same ▸ List.mem_cons_self)]
        · rw [if_neg later, if_neg same, if_neg (by simp [same, later])]

variable {graph : DependencyGraph} (order : SetOrder) (artifactId : String)

theorem removed_reverse_keys (node : String) :
    node ∈ (graph.removed order artifactId).reverse.keys ↔
      node ∈ graph.reverse.keys ∧ node ≠ artifactId := by
  rw [removed_reverse, Adjacency.mem_keys_erase, Adjacency.mem_keys_foldl_discard]

theorem removed_edges_keys (node : String) :
    node ∈ (graph.removed order artifactId).edges.keys ↔
      node ∈ graph.edges.keys ∧ node ≠ artifactId := by
  rw [removed_edges, Adjacency.mem_keys_foldl_discard, Adjacency.mem_keys_erase]

/-- `remove` drops the entries whose keys mention the artifact and keeps the others. -/
theorem find?_removed_metadata (key : String) :
    (graph.removed order artifactId).metadata.find? key =
      if mentions artifactId key then none else graph.metadata.find? key := by
  rw [removed_metadata, find?_foldl_erase]
  by_cases mentioned : mentions artifactId key = true
  · rw [if_pos mentioned]
    split
    · rfl
    · rename_i absent
      rw [Keyed.find?_eq_none_iff]
      rintro row inside rfl
      exact absent (List.mem_map_of_mem (List.mem_filter.mpr ⟨inside, mentioned⟩))
  · rw [if_neg mentioned, if_neg]
    rw [List.mem_map]
    rintro ⟨row, picked, rfl⟩
    exact mentioned (List.mem_filter.mp picked).2

theorem mentions_parent (child : String) :
    mentions artifactId (metadataKey artifactId child) = true := by
  simp [mentions, metadataKey]

theorem mentions_child (parent : String) :
    mentions artifactId (metadataKey parent artifactId) = true := by
  simp [mentions, metadataKey]

/-- Every metadata entry stands under the key of an edge. -/
def Described (graph : DependencyGraph) : Prop :=
  ∀ row ∈ graph.metadata.rows, ∃ parent child, graph.Edge parent child ∧
    metadataKey parent child = row.1

theorem Described.linked (described : graph.Described) (dep : ArtifactDependency) :
    (graph.linked dep).Described := by
  intro row inside
  rcases (Keyed.mem_put _ _ _).mp inside with rfl | ⟨held, _⟩
  · exact ⟨dep.parentId, dep.childId, (graph.linked_edge dep _ _).mpr (.inr ⟨rfl, rfl⟩), rfl⟩
  · obtain ⟨parent, child, edge, key⟩ := described row held
    exact ⟨parent, child, (graph.linked_edge dep _ _).mpr (.inl edge), key⟩

/-- An entry that is left does not mention the artifact, and so its edge is left, too. -/
theorem Described.removed (described : graph.Described) (sound : graph.Sound) :
    (graph.removed order artifactId).Described := by
  intro row inside
  have found := Keyed.find?_of_mem _ inside
  rw [find?_removed_metadata] at found
  by_cases mentioned : mentions artifactId row.1 = true
  · rw [if_pos mentioned] at found
    cases found
  · rw [if_neg mentioned] at found
    obtain ⟨parent, child, edge, key⟩ := described row (Keyed.mem_of_find? found)
    refine ⟨parent, child, (sound.removed_edge order artifactId parent child).mpr
      ⟨edge, ?_, ?_⟩, key⟩
    · rintro rfl
      exact mentioned (key ▸ mentions_parent parent child)
    · rintro rfl
      exact mentioned (key ▸ mentions_child child parent)

/-- What removing an artifact should do: its edges go, with their metadata, and the artifacts left
are the ends of the edges left. -/
structure RemovedExactly (before after : DependencyGraph) (artifactId : String) : Prop where
  edges : ∀ parent child, after.Edge parent child ↔
    before.Edge parent child ∧ parent ≠ artifactId ∧ child ≠ artifactId
  mirrored : ∀ parent child, parent ∈ (after.parents child).rows ↔ after.Edge parent child
  entries : ∀ row ∈ after.metadata.rows,
    ∃! edge : String × String, after.Edge edge.1 edge.2 ∧ metadataKey edge.1 edge.2 = row.1
  kept : ∀ parent child, after.Edge parent child → ∃ row,
    before.metadata.find? (metadataKey parent child) = some row ∧
    after.metadata.find? (metadataKey parent child) = some row
  artifacts : ∀ node, node ∈ after.allArtifacts ↔
    ∃ other, after.Edge node other ∨ after.Edge other node
  roots : ∀ node, node ∈ after.roots ↔
    node ∈ after.allArtifacts ∧ ∀ parent, ¬ after.Edge parent node
  leaves : ∀ node, node ∈ after.leaves ↔
    node ∈ after.allArtifacts ∧ ∀ child, ¬ after.Edge node child

/-- An edge that does not touch the artifact. -/
def Apart (graph : DependencyGraph) (artifactId parent child : String) : Prop :=
  graph.Edge parent child ∧ parent ≠ artifactId ∧ child ≠ artifactId

/-- No other id is left with an empty set, and the composed keys tell the other edges from each
other and from those of the artifact. -/
structure Separable (graph : DependencyGraph) (artifactId : String) : Prop where
  parented : ∀ node ∈ graph.reverse.keys, node ≠ artifactId →
    ∃ parent, graph.Apart artifactId parent node
  fruitful : ∀ node ∈ graph.edges.keys, node ≠ artifactId →
    ∃ child, graph.Apart artifactId node child
  distinct : ∀ parent child parent' child', graph.Apart artifactId parent child →
    graph.Apart artifactId parent' child' →
    metadataKey parent child = metadataKey parent' child' → parent = parent' ∧ child = child'
  unmentioned : ∀ parent child, graph.Apart artifactId parent child →
    mentions artifactId (metadataKey parent child) = false
  recorded : ∀ parent child, graph.Apart artifactId parent child →
    ∃ row, graph.metadata.find? (metadataKey parent child) = some row

theorem mem_roots (node : String) :
    node ∈ graph.roots ↔ node ∈ graph.allArtifacts ∧ node ∉ graph.reverse.keys := by
  simp [roots]

theorem mem_leaves (node : String) :
    node ∈ graph.leaves ↔ node ∈ graph.allArtifacts ∧ node ∉ graph.edges.keys := by
  simp [leaves]

theorem separable_of_removedExactly (sound : graph.Sound)
    (removal : RemovedExactly graph (graph.removed order artifactId) artifactId) :
    graph.Separable artifactId where
  parented := fun node key differs => by
    have left := (removed_reverse_keys order artifactId node).mpr ⟨key, differs⟩
    by_contra none
    have free : ∀ parent, ¬ (graph.removed order artifactId).Edge parent node :=
      fun parent edge => none ⟨parent, (sound.removed_edge order artifactId _ _).mp edge⟩
    have root := (removal.roots node).mpr ⟨(mem_allArtifacts node).mpr (.inr left), free⟩
    exact ((mem_roots node).mp root).2 left
  fruitful := fun node key differs => by
    have left := (removed_edges_keys order artifactId node).mpr ⟨key, differs⟩
    by_contra none
    have free : ∀ child, ¬ (graph.removed order artifactId).Edge node child :=
      fun child edge => none ⟨child, (sound.removed_edge order artifactId _ _).mp edge⟩
    have leaf := (removal.leaves node).mpr ⟨(mem_allArtifacts node).mpr (.inl left), free⟩
    exact ((mem_leaves node).mp leaf).2 left
  distinct := fun parent child parent' child' edge edge' same => by
    have left := (sound.removed_edge order artifactId _ _).mpr edge
    have left' := (sound.removed_edge order artifactId _ _).mpr edge'
    obtain ⟨row, _, found⟩ := removal.kept parent child left
    have named : row.1 = metadataKey parent child := Keyed.key_of_find? found
    have unique : (parent, child) = (parent', child') :=
      (removal.entries row (Keyed.mem_of_find? found)).unique ⟨left, named.symm⟩
        ⟨left', (named.trans same).symm⟩
    exact Prod.mk.inj unique
  unmentioned := fun parent child edge => by
    obtain ⟨row, _, found⟩ :=
      removal.kept parent child ((sound.removed_edge order artifactId _ _).mpr edge)
    rw [find?_removed_metadata] at found
    by_contra mentioned
    rw [if_pos (Bool.not_eq_false _ ▸ mentioned)] at found
    cases found
  recorded := fun parent child edge => by
    obtain ⟨row, before, _⟩ :=
      removal.kept parent child ((sound.removed_edge order artifactId _ _).mpr edge)
    exact ⟨row, before⟩

theorem removedExactly_of_separable (sound : graph.Sound) (described : graph.Described)
    (separable : graph.Separable artifactId) :
    RemovedExactly graph (graph.removed order artifactId) artifactId := by
  have sound' := sound.removed order artifactId
  have edges := sound.removed_edge order artifactId
  have parented : ∀ node, node ∈ (graph.removed order artifactId).reverse.keys ↔
      ∃ parent, (graph.removed order artifactId).Edge parent node := by
    intro node
    constructor
    · intro key
      obtain ⟨held, differs⟩ := (removed_reverse_keys order artifactId node).mp key
      obtain ⟨parent, edge⟩ := separable.parented node held differs
      exact ⟨parent, (edges parent node).mpr edge⟩
    · rintro ⟨parent, edge⟩
      exact Adjacency.mem_keys_of_mem _ _ _ ((sound'.transposed parent node).mp edge)
  have fruitful : ∀ node, node ∈ (graph.removed order artifactId).edges.keys ↔
      ∃ child, (graph.removed order artifactId).Edge node child := by
    intro node
    constructor
    · intro key
      obtain ⟨held, differs⟩ := (removed_edges_keys order artifactId node).mp key
      obtain ⟨child, edge⟩ := separable.fruitful node held differs
      exact ⟨child, (edges node child).mpr edge⟩
    · rintro ⟨child, edge⟩
      exact Adjacency.mem_keys_of_mem _ _ _ edge
  refine ⟨edges, fun parent child => (sound'.transposed parent child).symm, fun row inside => ?_,
    fun parent child edge => ?_, fun node => ?_, fun node => ?_, fun node => ?_⟩
  · obtain ⟨parent, child, edge, key⟩ := described.removed order artifactId sound row inside
    refine ⟨(parent, child), ⟨edge, key⟩, ?_⟩
    rintro ⟨parent', child'⟩ ⟨edge', key'⟩
    obtain ⟨rfl, rfl⟩ := separable.distinct _ _ _ _ ((edges _ _).mp edge') ((edges _ _).mp edge)
      (key'.trans key.symm)
    rfl
  · have apart := (edges parent child).mp edge
    obtain ⟨row, found⟩ := separable.recorded parent child apart
    refine ⟨row, found, ?_⟩
    rw [find?_removed_metadata, separable.unmentioned parent child apart]
    exact found
  · rw [mem_allArtifacts, parented, fruitful, exists_or]
  · rw [mem_roots, parented, not_exists]
  · rw [mem_leaves, fruitful, not_exists]

end DependencyGraph

theorem graphStep_described (graph : DependencyGraph) (graphCall : GraphCall)
    (invariant : graph.Sound ∧ graph.Described) :
    (graphStep graph graphCall).2.Sound ∧ (graphStep graph graphCall).2.Described := by
  obtain ⟨sound, described⟩ := invariant
  refine ⟨graphStep_sound graph graphCall sound, ?_⟩
  cases graphCall with
  | add order dep =>
      rcases graph.add_cases order dep with ⟨message, refused, _⟩ | ⟨added, _, _⟩
      · rw [graphStep, GraphCall.program, refused]
        exact described
      · rw [graphStep, GraphCall.program, added]
        exact described.linked dep
  | remove order artifactId =>
      rw [graphStep, GraphCall.program, DependencyGraph.call_remove]
      exact described.removed order artifactId sound

theorem graph_described (graphCalls : List GraphCall) :
    (run graphStep DependencyGraph.empty graphCalls).2.Sound ∧
      (run graphStep DependencyGraph.empty graphCalls).2.Described :=
  run_invariant graphStep_described ⟨DependencyGraph.sound_empty, nofun⟩ graphCalls

/-- In every state that a graph reaches, removing an artifact is exact where every other id that
is a key of `_reverse` or `_edges` keeps a parent or a child, and where the edges that stay have
entries under keys of their own, none of which mentions the artifact. -/
theorem remove_exact_iff (graphCalls : List GraphCall) (order : SetOrder) (artifactId : String) :
    let graph := (run graphStep DependencyGraph.empty graphCalls).2
    let removal := graphStep graph (.remove order artifactId)
    removal.1 = .ok () ∧
      (DependencyGraph.RemovedExactly graph removal.2 artifactId ↔ graph.Separable artifactId) := by
  intro graph removal
  obtain ⟨sound, described⟩ := graph_described graphCalls
  have returned : removal = (.ok (), graph.removed order artifactId) :=
    graph.call_remove order artifactId
  rw [returned]
  exact ⟨rfl, DependencyGraph.separable_of_removedExactly order artifactId sound,
    DependencyGraph.removedExactly_of_separable order artifactId sound described⟩

/-- The child of a removed artifact stays among the artifacts. -/
theorem remove_leaves_child :
    let graph := (run graphStep DependencyGraph.empty
      [.add .asStored ⟨"page", "text", "produced_by", ""⟩]).2
    ¬ DependencyGraph.RemovedExactly graph (graphStep graph (.remove .asStored "page")).2 "page" := by
  intro graph removal
  have listed : "text" ∈ (graphStep graph (.remove .asStored "page")).2.allArtifacts := by
    decide +kernel
  have childless : ((graphStep graph (.remove .asStored "page")).2.children "text").rows = [] := by
    decide +kernel
  have orphan : ((graphStep graph (.remove .asStored "page")).2.parents "text").rows = [] := by
    decide +kernel
  obtain ⟨other, edge | edge⟩ := (removal.artifacts "text").mp listed
  · rw [DependencyGraph.Edge, childless] at edge
    cases edge
  · have held := (removal.mirrored other "text").mpr edge
    rw [orphan] at held
    cases held

end LexMind.Artifacts
