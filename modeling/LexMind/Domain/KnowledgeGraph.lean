import LexMind.Lib.FifoMap
import LexMind.Lib.Keyed
import LexMind.Lib.NormalSet
import LexMind.Lib.Simulation
import LexMind.Python
import Mathlib.Data.String.Basic

set_option autoImplicit false

/- The knowledge graph of a case is a set of typed edges without loops, each with one id. -/
namespace LexMind.Domain

open Lib

inductive RelationshipType
  | employment
  | ownership
  | family
  | contractual
  | agency
  | partnership
  | subsidiary
  | citation
  | reference
  | contradiction
  | support
  | temporal
  | causal
deriving DecidableEq, Repr

/-- A typed link between two entities, as far as the graph reads it. -/
structure Relationship where
  id : String
  sourceEntityId : String
  targetEntityId : String
  relationshipType : RelationshipType
  source : sourceEntityId ≠ ""
  target : targetEntityId ≠ ""
  different : sourceEntityId ≠ targetEntityId

/-- What `__post_init__` accepts. -/
def Relationship.of (id sourceEntityId targetEntityId : String)
    (relationshipType : RelationshipType) : Except PyExc Relationship :=
  if source : sourceEntityId = "" then
    .error (.invariantViolation "Relationship must have a source entity")
  else if target : targetEntityId = "" then
    .error (.invariantViolation "Relationship must have a target entity")
  else if different : sourceEntityId = targetEntityId then
    .error (.invariantViolation "Relationship source and target must be different")
  else .ok ⟨id, sourceEntityId, targetEntityId, relationshipType, source, target, different⟩

/-- What two relationships of one graph may not share. -/
abbrev Triple := String × String × RelationshipType

def Relationship.triple (relationship : Relationship) : Triple :=
  (relationship.sourceEntityId, relationship.targetEntityId, relationship.relationshipType)

/-- `tuple(sorted(set(...)))`. -/
def anyText : NormalForm String where
  keep _ := true
  normal element := element
  keep_normal _ _ := rfl
  normal_normal _ _ := rfl

theorem mem_anyText {elements : List String} {element : String} :
    element ∈ anyText.clean elements ↔ element ∈ elements :=
  anyText.mem_clean_stored fun _ _ => ⟨rfl, rfl⟩

/-- The relationships of the graph, no two with the same triple. -/
structure KnowledgeGraph where
  caseId : String
  relationships : Keyed Relationship.triple

namespace KnowledgeGraph

variable (graph : KnowledgeGraph)

def relationshipCount : Nat := graph.relationships.rows.length

def nodeIds : List String :=
  anyText.clean (graph.relationships.rows.flatMap
    (fun rel => [rel.sourceEntityId, rel.targetEntityId]))

def addRelationship (relationship : Relationship) : Py KnowledgeGraph Unit := do
  if (← get).relationships.contains relationship.triple then
    throw (.invariantViolation "Duplicate relationship in knowledge graph")
  modify (fun graph => { graph with relationships := graph.relationships.put relationship })

/-- All relationships of the id go. -/
def removeRelationship (relationshipId : String) : Py KnowledgeGraph Unit :=
  modify (fun graph =>
    { graph with relationships := graph.relationships.restrict (fun rel => rel.id ≠ relationshipId) })

def relationshipsFrom (entityId : String) : List Relationship :=
  graph.relationships.rows.filter (fun rel => rel.sourceEntityId = entityId)

def relationshipsTo (entityId : String) : List Relationship :=
  graph.relationships.rows.filter (fun rel => rel.targetEntityId = entityId)

def connectedEntities (entityId : String) : List String :=
  anyText.clean ((graph.relationshipsFrom entityId).map Relationship.targetEntityId ++
    (graph.relationshipsTo entityId).map Relationship.sourceEntityId)

end KnowledgeGraph

inductive GraphCall
  | addRelationship (relationship : Relationship)
  | removeRelationship (relationshipId : String)

def GraphCall.program : GraphCall → Py KnowledgeGraph Unit
  | addRelationship relationship => KnowledgeGraph.addRelationship relationship
  | removeRelationship relationshipId => KnowledgeGraph.removeRelationship relationshipId

def graphStep (graph : KnowledgeGraph) (graphCall : GraphCall) :
    Except PyExc Unit × KnowledgeGraph := call graphCall.program graph

/-- What the graph is for: which typed edges there are, each with the id it was added under. -/
abbrev EdgeMap := Triple → Option String

def edgeStep (edges : EdgeMap) : GraphCall → Except PyExc Unit × EdgeMap
  | .addRelationship relationship =>
      if (edges relationship.triple).isSome then
        (.error (.invariantViolation "Duplicate relationship in knowledge graph"), edges)
      else (.ok (), Function.update edges relationship.triple (some relationship.id))
  | .removeRelationship relationshipId =>
      (.ok (), fun triple => (edges triple).filter (fun id => id ≠ relationshipId))

/-- There is an edge of some type from the one to the other. -/
def EdgeMap.Linked (edges : EdgeMap) (source target : String) : Prop :=
  ∃ relationshipType, edges (source, target, relationshipType) ≠ none

/-- The graph has exactly these edges. -/
def Depicts (graph : KnowledgeGraph) (edges : EdgeMap) : Prop :=
  ∀ triple, (graph.relationships.find? triple).map Relationship.id = edges triple

section Steps

variable {graph : KnowledgeGraph} {edges : EdgeMap}

theorem Depicts.contains (depicts : Depicts graph edges) (triple : Triple) :
    graph.relationships.contains triple = (edges triple).isSome := by
  rw [Keyed.contains, ← depicts triple, Option.isSome_map]

theorem Depicts.put (depicts : Depicts graph edges) (relationship : Relationship) :
    Depicts { graph with relationships := graph.relationships.put relationship }
      (Function.update edges relationship.triple (some relationship.id)) := by
  intro triple
  by_cases same : triple = relationship.triple
  · subst same
    rw [Function.update_self, Keyed.find?_put_self, Option.map_some]
  · rw [Function.update_of_ne same, Keyed.find?_put_of_ne _ _ (Ne.symm same)]
    exact depicts triple

theorem Depicts.restrict (depicts : Depicts graph edges) (relationshipId : String) :
    Depicts { graph with
        relationships := graph.relationships.restrict (fun rel => rel.id ≠ relationshipId) }
      (fun triple => (edges triple).filter (fun id => id ≠ relationshipId)) := by
  intro triple
  dsimp only
  rw [Keyed.find?_restrict, ← depicts triple]
  cases graph.relationships.find? triple with
  | none => rfl
  | some rel =>
      by_cases gone : rel.id = relationshipId <;> simp [gone, Option.filter]

theorem graph_simulates :
    Simulates Depicts (fun _ (_ : GraphCall) => True) graphStep edgeStep := by
  intro graph edges graphCall depicts _
  cases graphCall with
  | addRelationship relationship =>
      have known := depicts.contains relationship.triple
      by_cases there : (edges relationship.triple).isSome = true
      · rw [there] at known
        simp only [graphStep, GraphCall.program, KnowledgeGraph.addRelationship, call_bind, call_get,
          andThen_ok, known, if_true, call_throw, andThen_error, edgeStep, there]
        exact ⟨trivial, depicts⟩
      · rw [(Bool.not_eq_true _).mp there] at known
        simp only [graphStep, GraphCall.program, KnowledgeGraph.addRelationship, call_bind, call_get,
          andThen_ok, known, Bool.false_eq_true, if_false, call_modify, edgeStep, there]
        exact ⟨trivial, depicts.put relationship⟩
  | removeRelationship relationshipId => exact ⟨rfl, depicts.restrict relationshipId⟩

end Steps

section Queries

variable {graph : KnowledgeGraph} {edges : EdgeMap} {first second : String}

theorem Depicts.linked_iff (depicts : Depicts graph edges) :
    edges.Linked first second ↔ ∃ rel ∈ graph.relationships.rows,
      rel.sourceEntityId = first ∧ rel.targetEntityId = second := by
  constructor
  · rintro ⟨relationshipType, present⟩
    rw [← depicts, ne_eq, Option.map_eq_none_iff] at present
    obtain ⟨rel, found⟩ := Option.ne_none_iff_exists'.mp present
    obtain ⟨inside, same⟩ := (Keyed.find?_eq_some_iff _ _ _).mp found
    exact ⟨rel, inside, congrArg Prod.fst same, congrArg (fun triple => triple.2.1) same⟩
  · rintro ⟨rel, inside, rfl, rfl⟩
    refine ⟨rel.relationshipType, ?_⟩
    rw [← depicts]
    have found := Keyed.find?_of_mem graph.relationships inside
    rw [Relationship.triple] at found
    rw [found]
    exact Option.some_ne_none _

/-- No entity is linked to itself. -/
theorem Depicts.not_linked_self (depicts : Depicts graph edges) : ¬ edges.Linked first first := by
  rw [depicts.linked_iff]
  rintro ⟨rel, _, source, target⟩
  exact rel.different (source.trans target.symm)

theorem Depicts.mem_connected (depicts : Depicts graph edges) :
    second ∈ graph.connectedEntities first ↔
      edges.Linked first second ∨ edges.Linked second first := by
  rw [KnowledgeGraph.connectedEntities, mem_anyText, List.mem_append, depicts.linked_iff,
    depicts.linked_iff]
  simp only [KnowledgeGraph.relationshipsFrom, KnowledgeGraph.relationshipsTo, List.mem_map,
    List.mem_filter, decide_eq_true_eq, and_assoc]
  exact or_congr Iff.rfl (exists_congr fun _ => and_congr_right fun _ => and_comm)

theorem Depicts.mem_nodeIds (depicts : Depicts graph edges) :
    first ∈ graph.nodeIds ↔ ∃ other, edges.Linked first other ∨ edges.Linked other first := by
  rw [KnowledgeGraph.nodeIds, mem_anyText, List.mem_flatMap]
  simp only [depicts.linked_iff]
  constructor
  · rintro ⟨rel, inside, named⟩
    rcases List.mem_pair.mp named with rfl | rfl
    · exact ⟨_, .inl ⟨rel, inside, rfl, rfl⟩⟩
    · exact ⟨_, .inr ⟨rel, inside, rfl, rfl⟩⟩
  · rintro ⟨other, ⟨rel, inside, rfl, rfl⟩ | ⟨rel, inside, rfl, rfl⟩⟩
    · exact ⟨rel, inside, List.mem_pair.mpr (.inl rfl)⟩
    · exact ⟨rel, inside, List.mem_pair.mpr (.inr rfl)⟩

/-- The nodes are the entities with a neighbour. -/
theorem Depicts.mem_nodeIds_iff (depicts : Depicts graph edges) :
    first ∈ graph.nodeIds ↔ graph.connectedEntities first ≠ [] := by
  rw [depicts.mem_nodeIds, Ne, List.eq_nil_iff_forall_not_mem, not_forall_not]
  exact exists_congr fun _ => depicts.mem_connected.symm

end Queries

/-- A run from the empty graph is a run on a map of edges, and the queries read that map: being
connected is symmetric and never holds of an entity and itself, the nodes are the entities with a
neighbour, and both are in order and without repetition. -/
theorem graph_is_edge_map (caseId : String) (calls : List GraphCall) :
    let graph := (run graphStep ⟨caseId, Keyed.empty⟩ calls).2
    let edges := (run edgeStep (fun _ => none) calls).2
    (run graphStep ⟨caseId, Keyed.empty⟩ calls).1 = (run edgeStep (fun _ => none) calls).1 ∧
      Depicts graph edges ∧
      (∀ first second, second ∈ graph.connectedEntities first ↔
        edges.Linked first second ∨ edges.Linked second first) ∧
      (∀ first second, second ∈ graph.connectedEntities first ↔
        first ∈ graph.connectedEntities second) ∧
      (∀ entity, entity ∉ graph.connectedEntities entity) ∧
      (∀ entity, entity ∈ graph.nodeIds ↔ graph.connectedEntities entity ≠ []) ∧
      graph.nodeIds.SortedLT ∧ ∀ entity, (graph.connectedEntities entity).SortedLT := by
  intro graph edges
  have start : Depicts ⟨caseId, Keyed.empty⟩ (fun _ => none) := fun _ => rfl
  obtain ⟨answers, depicts⟩ := graph_simulates.run start
    (along_of_all (fun _ _ => trivial) _ calls)
  refine ⟨answers, depicts, fun _ _ => depicts.mem_connected, fun first second => ?_,
    fun entity inside => ?_, fun _ => depicts.mem_nodeIds_iff, anyText.sortedLT_clean _,
    fun _ => anyText.sortedLT_clean _⟩
  · rw [depicts.mem_connected, depicts.mem_connected, or_comm]
  · rcases depicts.mem_connected.mp inside with loop | loop
    · exact depicts.not_linked_self loop
    · exact depicts.not_linked_self loop

end LexMind.Domain
