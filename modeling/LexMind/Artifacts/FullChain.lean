import LexMind.Artifacts.ArtifactLineage
import LexMind.Artifacts.TopologicalOrder

set_option autoImplicit false

namespace LexMind.Artifacts

open Lib Relation

namespace LineageTracker

variable (tracker : LineageTracker) (order : SetOrder)

/-- Append the nodes that the chain does not hold yet. -/
def extend (chain nodes : List String) : List String :=
  nodes.foldl (fun chain node => if node ∈ chain then chain else chain ++ [node]) chain

/-- The ancestors without parents, or else the artifact itself. -/
def chainRoots (artifactId : String) (ancestors : List String) : List String :=
  let roots := ancestors.filter (fun ancestor => (tracker.graph.parents ancestor).rows = [])
  if roots = [] then [artifactId] else roots

/-- What one root adds to the chain. -/
def chainFrom (chain : List String) (root : String) : Except PyExc (List String) := do
  let listed ← tracker.graph.topologicalOrder order
  let rootIdx := if root ∈ listed then listed.idxOf root else 0
  return extend chain (listed.drop rootIdx)

def chainOf (artifactId : String) (ancestors : List String) : Except PyExc (List String) := do
  let chain ← (tracker.chainRoots artifactId ancestors).foldlM (tracker.chainFrom order) []
  return if artifactId ∈ chain then chain else chain ++ [artifactId]

def fullChain (artifactId : String) : Option (Except PyExc (List String)) :=
  (tracker.ancestors order artifactId).map (tracker.chainOf order artifactId)

/-- The lineage of an artifact: it and its ancestors, each once and after its own ancestors, the
artifact last. -/
structure Lineage (graph : DependencyGraph) (artifactId : String) (chain : List String) : Prop where
  distinct : chain.Nodup
  exact : ∀ node, node ∈ chain ↔ node = artifactId ∨ TransGen graph.Edge node artifactId
  ordered : ∀ node ∈ chain, ∀ ancestor, TransGen graph.Edge ancestor node →
    chain.idxOf ancestor < chain.idxOf node
  last : chain.getLast? = some artifactId

/-- A topological order of the graph. -/
structure Ordered (graph : DependencyGraph) (listed : List String) : Prop where
  distinct : listed.Nodup
  complete : ∀ node, node ∈ listed ↔ node ∈ graph.allArtifacts
  before : ∀ first second, TransGen graph.Edge first second →
    listed.idxOf first < listed.idxOf second

/-- Where the topological order is cut. -/
def firstRoot (artifactId : String) (ancestors : List String) : String :=
  (tracker.chainRoots artifactId ancestors).headD artifactId

/-- The topological order, from the first root on, holds all ancestors and nothing foreign. An
artifact outside the graph has it to itself only where the graph has no artifacts. -/
structure SoleDescent (artifactId : String) (ancestors listed : List String) : Prop where
  known : artifactId ∈ listed ∨ listed = []
  related : ∀ node ∈ listed,
    listed.idxOf (tracker.firstRoot artifactId ancestors) ≤ listed.idxOf node →
    node = artifactId ∨ node ∈ ancestors
  after : ∀ ancestor ∈ ancestors,
    listed.idxOf (tracker.firstRoot artifactId ancestors) ≤ listed.idxOf ancestor

theorem extend_eq (chain : List String) {nodes : List String} (distinct : nodes.Nodup) :
    extend chain nodes = chain ++ nodes.filter (· ∉ chain) := by
  induction nodes generalizing chain with
  | nil => exact (List.append_nil chain).symm
  | cons node rest ih =>
      obtain ⟨fresh, distinct⟩ := List.nodup_cons.mp distinct
      rw [extend, List.foldl_cons]
      by_cases held : node ∈ chain
      · rw [if_pos held, List.filter_cons_of_neg (by simpa using held)]
        exact ih chain distinct
      · rw [if_neg held, List.filter_cons_of_pos (by simpa using held)]
        have rest_eq : rest.filter (· ∉ chain ++ [node]) = rest.filter (· ∉ chain) := by
          refine List.filter_congr (fun other inside => ?_)
          have differs : other ≠ node := fun same => fresh (same ▸ inside)
          simp [differs]
        show extend (chain ++ [node]) rest = _
        rw [ih (chain ++ [node]) distinct, rest_eq, List.append_assoc, List.singleton_append]

variable {tracker} {order} {listed : List String}

theorem chainFrom_listed (sorted : tracker.graph.topologicalOrder order = .ok listed)
    (distinct : listed.Nodup) {root : String} (inside : root ∈ listed) (chain : List String) :
    tracker.chainFrom order chain root =
      .ok (chain ++ (listed.drop (listed.idxOf root)).filter (· ∉ chain)) := by
  rw [chainFrom, sorted, ← extend_eq chain distinct.drop]
  show Except.ok (extend chain (listed.drop (if root ∈ listed then _ else 0))) = _
  rw [if_pos inside]

/-- The loop over further roots appends what lies after one of them and is not there yet. -/
theorem chain_extends (sorted : tracker.graph.topologicalOrder order = .ok listed)
    (distinct : listed.Nodup) {roots : List String} (inside : ∀ root ∈ roots, root ∈ listed)
    {chain : List String} (single : chain.Nodup) :
    ∃ more, roots.foldlM (tracker.chainFrom order) chain = .ok (chain ++ more) ∧
      (chain ++ more).Nodup ∧
      (∀ node ∈ more, ∃ root ∈ roots, node ∈ listed.drop (listed.idxOf root)) ∧
      ∀ root ∈ roots, ∀ node ∈ listed.drop (listed.idxOf root), node ∈ chain ++ more := by
  induction roots generalizing chain with
  | nil => exact ⟨[], by rw [List.append_nil]; rfl, by rwa [List.append_nil], nofun, nofun⟩
  | cons root rest ih =>
      have fresh : (chain ++ (listed.drop (listed.idxOf root)).filter (· ∉ chain)).Nodup := by
        refine List.nodup_append.mpr ⟨single, distinct.drop.filter _, ?_⟩
        rintro node held other picked rfl
        exact of_decide_eq_true (List.mem_filter.mp picked).2 held
      obtain ⟨more, looped, unique, sources, covered⟩ :=
        ih (fun other later => inside other (List.mem_cons_of_mem _ later)) fresh
      refine ⟨(listed.drop (listed.idxOf root)).filter (· ∉ chain) ++ more, ?_, ?_, ?_, ?_⟩
      · rw [List.foldlM_cons, chainFrom_listed sorted distinct (inside root List.mem_cons_self),
          ← List.append_assoc]
        exact looped
      · rwa [← List.append_assoc]
      · intro node held
        rcases List.mem_append.mp held with picked | later
        · exact ⟨root, List.mem_cons_self, (List.mem_filter.mp picked).1⟩
        · obtain ⟨other, within, after⟩ := sources node later
          exact ⟨other, List.mem_cons_of_mem _ within, after⟩
      · intro other within node after
        rw [← List.append_assoc]
        rcases List.mem_cons.mp within with rfl | within
        · refine List.mem_append_left _ ?_
          by_cases held : node ∈ chain
          · exact List.mem_append_left _ held
          · exact List.mem_append_right _ (List.mem_filter.mpr ⟨after, decide_eq_true held⟩)
        · exact covered other within node after

/-- The roots are those ancestors that have no parents; only an artifact without ancestors is its
own root. -/
theorem chainRoots_cases (sound : tracker.graph.Sound) {artifactId : String} {above : List String}
    (exact : ∀ other, other ∈ above ↔ TransGen tracker.graph.Edge other artifactId) :
    ∃ rest, tracker.chainRoots artifactId above =
        tracker.firstRoot artifactId above :: rest ∧
      ((above = [] ∧ rest = [] ∧ tracker.firstRoot artifactId above = artifactId) ∨
        tracker.firstRoot artifactId above ∈ above ∧ ∀ root ∈ rest, root ∈ above) := by
  rw [firstRoot]
  by_cases none : above = []
  · subst none
    exact ⟨[], rfl, .inl ⟨rfl, rfl, rfl⟩⟩
  · obtain ⟨source, inside, unparented⟩ := sound.acyclic.exists_source none
    have free : (tracker.graph.parents source).rows = [] := by
      refine List.eq_nil_iff_forall_not_mem.mpr (fun parent held => ?_)
      have edge := (sound.transposed parent source).mpr held
      exact unparented parent ((exact parent).mpr (.head edge ((exact source).mp inside))) edge
    have some : above.filter (fun ancestor => (tracker.graph.parents ancestor).rows = []) ≠ [] :=
      List.ne_nil_of_mem (List.mem_filter.mpr ⟨inside, decide_eq_true free⟩)
    obtain ⟨root, rest, split⟩ := List.exists_cons_of_ne_nil some
    have roots : tracker.chainRoots artifactId above = root :: rest := by
      rw [chainRoots]
      simp only [split, reduceCtorEq, ↓reduceIte]
    have listed : ∀ other ∈ root :: rest, other ∈ above := fun other held =>
      (List.mem_filter.mp (split ▸ held)).1
    rw [roots]
    exact ⟨rest, rfl, .inr ⟨listed root List.mem_cons_self,
      fun other held => listed other (List.mem_cons_of_mem _ held)⟩⟩

theorem exists_ordered {graph : DependencyGraph} (sound : graph.Sound) (order : SetOrder) :
    ∃ listed, graph.topologicalOrder order = .ok listed ∧ Ordered graph listed := by
  obtain ⟨listed, sorted, distinct, complete, edges⟩ := sound.topologicalOrder order
  refine ⟨listed, sorted, distinct, complete, fun first second path => ?_⟩
  induction path with
  | single edge => exact edges _ _ edge
  | tail _ edge ih => exact ih.trans (edges _ _ edge)

/-- The end of a topological order is a lineage where it holds just an artifact and its
ancestors. -/
theorem Ordered.lineage {graph : DependencyGraph} (ordered : Ordered graph listed) {start : Nat}
    {artifactId : String}
    (exact : ∀ node, node ∈ listed.drop start ↔
      node = artifactId ∨ TransGen graph.Edge node artifactId) :
    Lineage graph artifactId (listed.drop start) := by
  have unique := ordered.distinct.drop (i := start)
  have earlier : ∀ node ∈ listed.drop start, ∀ ancestor, TransGen graph.Edge ancestor node →
      (listed.drop start).idxOf ancestor < (listed.drop start).idxOf node := by
    intro node inside ancestor path
    have above : TransGen graph.Edge ancestor artifactId := by
      rcases (exact node).mp inside with rfl | on
      · exact path
      · exact path.trans on
    have first := idxOf_of_mem_drop ordered.distinct ((exact ancestor).mpr (.inr above))
    have second := idxOf_of_mem_drop ordered.distinct inside
    have before := ordered.before ancestor node path
    omega
  refine ⟨unique, exact, earlier, ?_⟩
  have held := (exact artifactId).mpr (.inl rfl)
  rcases List.eq_nil_or_concat (listed.drop start) with none | ⟨front, final, split⟩
  · rw [none] at held
    cases held
  · rw [List.concat_eq_append] at split
    rw [split] at unique held exact earlier ⊢
    rw [List.getLast?_concat]
    have inside : final ∈ front ++ [final] := List.mem_append_right _ List.mem_cons_self
    rcases (exact final).mp inside with rfl | path
    · rfl
    rcases List.mem_append.mp held with early | last
    · have late := idxOf_lt_of_front unique early
      have order := earlier artifactId held final path
      omega
    · rw [List.mem_singleton.mp last]

/-- An artifact outside the graph comes after everything the graph holds. -/
theorem chainOf_unlisted (sound : tracker.graph.Sound)
    (sorted : tracker.graph.topologicalOrder order = .ok listed)
    (ordered : Ordered tracker.graph listed) {artifactId : String} (outside : artifactId ∉ listed)
    {above : List String}
    (exact : ∀ other, other ∈ above ↔ TransGen tracker.graph.Edge other artifactId) :
    tracker.chainOf order artifactId above = .ok (listed ++ [artifactId]) ∧
      (Lineage tracker.graph artifactId (listed ++ [artifactId]) ↔
        tracker.SoleDescent artifactId above listed) := by
  have orphan : ∀ other, ¬ TransGen tracker.graph.Edge other artifactId := by
    intro other path
    obtain ⟨_, edge⟩ := TransGen.tail'_iff.mp path
    exact outside ((ordered.complete _).mpr (sound.listed edge.2).2)
  have none : above = [] :=
    List.eq_nil_iff_forall_not_mem.mpr (fun other held => orphan other ((exact other).mp held))
  subst none
  have whole : tracker.chainFrom order [] artifactId = .ok listed := by
    rw [chainFrom, sorted]
    show Except.ok (extend [] (listed.drop (if artifactId ∈ listed then _ else 0))) = _
    rw [if_neg outside, List.drop_zero, extend_eq [] ordered.distinct]
    simp
  constructor
  · rw [chainOf]
    show ([artifactId].foldlM (tracker.chainFrom order) [] >>= _) = _
    rw [List.foldlM_cons, whole]
    show Except.ok (if artifactId ∈ listed then _ else _) = _
    rw [if_neg outside]
  · constructor
    · intro lineage
      have empty : listed = [] := by
        refine List.eq_nil_iff_forall_not_mem.mpr (fun node inside => ?_)
        rcases (lineage.exact node).mp (List.mem_append_left _ inside) with rfl | path
        · exact outside inside
        · exact orphan node path
      subst empty
      exact ⟨.inr rfl, nofun, nofun⟩
    · intro sole
      have empty := sole.known.resolve_left outside
      subst empty
      refine ⟨List.nodup_singleton _, fun node => ?_, fun node inside ancestor path => ?_, rfl⟩
      · rw [List.nil_append, List.mem_singleton]
        exact ⟨.inl, fun holds => holds.resolve_right (orphan node)⟩
      · cases List.mem_singleton.mp inside
        exact absurd path (orphan ancestor)

theorem ancestors_listed (sound : tracker.graph.Sound) (ordered : Ordered tracker.graph listed)
    {artifactId : String} {above : List String}
    (exact : ∀ other, other ∈ above ↔ TransGen tracker.graph.Edge other artifactId) :
    ∀ other ∈ above, other ∈ listed := by
  intro other up
  obtain ⟨_, edge, _⟩ := TransGen.head'_iff.mp ((exact other).mp up)
  exact (ordered.complete other).mpr (sound.listed edge).1

/-- Ancestors and the artifact itself stand in the order, and so does each root. -/
theorem chainRoots_listed (sound : tracker.graph.Sound) (ordered : Ordered tracker.graph listed)
    {artifactId : String} (inside : artifactId ∈ listed) {above : List String}
    (exact : ∀ other, other ∈ above ↔ TransGen tracker.graph.Edge other artifactId) :
    ∃ rest, tracker.chainRoots artifactId above = tracker.firstRoot artifactId above :: rest ∧
      ∀ other ∈ tracker.firstRoot artifactId above :: rest,
        other ∈ listed ∧ (other = artifactId ∨ other ∈ above) := by
  obtain ⟨rest, roots, kinds⟩ := chainRoots_cases sound exact
  refine ⟨rest, roots, fun other among => ?_⟩
  rcases kinds with ⟨_, rfl, same⟩ | ⟨first, others⟩
  · rw [List.mem_singleton.mp among, same]
    exact ⟨inside, .inl rfl⟩
  · have up : other ∈ above := by
      rcases List.mem_cons.mp among with rfl | later
      · exact first
      · exact others other later
    exact ⟨ancestors_listed sound ordered exact other up, .inr up⟩

theorem firstRoot_le (sound : tracker.graph.Sound) (ordered : Ordered tracker.graph listed)
    {artifactId : String} (inside : artifactId ∈ listed) {above : List String}
    (exact : ∀ other, other ∈ above ↔ TransGen tracker.graph.Edge other artifactId) :
    listed.idxOf (tracker.firstRoot artifactId above) ≤ listed.idxOf artifactId := by
  obtain ⟨rest, _, known⟩ := chainRoots_listed sound ordered inside exact
  rcases (known _ List.mem_cons_self).2 with same | up
  · rw [same]
  · exact (ordered.before _ artifactId ((exact _).mp up)).le

/-- Within the graph, the chain starts with the topological order from the first root on. -/
theorem chainOf_begins (sound : tracker.graph.Sound)
    (sorted : tracker.graph.topologicalOrder order = .ok listed)
    (ordered : Ordered tracker.graph listed) {artifactId : String} (inside : artifactId ∈ listed)
    {above : List String}
    (exact : ∀ other, other ∈ above ↔ TransGen tracker.graph.Edge other artifactId) :
    let first := listed.drop (listed.idxOf (tracker.firstRoot artifactId above))
    ∃ more, tracker.chainOf order artifactId above = .ok (first ++ more) ∧ (first ++ more).Nodup ∧
      artifactId ∈ first ∧
      ∀ node ∈ more, ∃ root, (root = artifactId ∨ root ∈ above) ∧
        node ∈ listed.drop (listed.idxOf root) := by
  intro first
  obtain ⟨rest, roots, known⟩ := chainRoots_listed sound ordered inside exact
  have cut : artifactId ∈ first :=
    (mem_drop_iff ordered.distinct).mpr ⟨inside, firstRoot_le sound ordered inside exact⟩
  obtain ⟨more, looped, unique, sources, _⟩ := chain_extends sorted ordered.distinct
    (fun other among => (known other (List.mem_cons_of_mem _ among)).1)
    (ordered.distinct.drop (i := listed.idxOf (tracker.firstRoot artifactId above)))
  refine ⟨more, ?_, unique, cut, fun node picked => ?_⟩
  · have start : tracker.chainFrom order [] (tracker.firstRoot artifactId above) = .ok first := by
      rw [chainFrom_listed sorted ordered.distinct (known _ List.mem_cons_self).1]
      simp [first]
    rw [chainOf, roots, List.foldlM_cons, start]
    show (rest.foldlM (tracker.chainFrom order) first >>= _) = _
    rw [looped]
    show Except.ok (if artifactId ∈ _ then _ else _) = _
    rw [if_pos (List.mem_append_left _ cut)]
  · obtain ⟨root, among, late⟩ := sources node picked
    exact ⟨root, (known root (List.mem_cons_of_mem _ among)).2, late⟩

/-- The chain is the lineage where the topological order from the first root on is all of it. -/
theorem chainOf_listed (sound : tracker.graph.Sound)
    (sorted : tracker.graph.topologicalOrder order = .ok listed)
    (ordered : Ordered tracker.graph listed) {artifactId : String} (inside : artifactId ∈ listed)
    {above : List String}
    (exact : ∀ other, other ∈ above ↔ TransGen tracker.graph.Edge other artifactId) :
    ∃ chain, tracker.chainOf order artifactId above = .ok chain ∧
      (Lineage tracker.graph artifactId chain ↔ tracker.SoleDescent artifactId above listed) := by
  have held := ancestors_listed sound ordered exact
  obtain ⟨more, chained, unique, cut, sources⟩ :=
    chainOf_begins sound sorted ordered inside exact
  set root := tracker.firstRoot artifactId above
  refine ⟨_, chained, ?_, ?_⟩
  · intro lineage
    have only : more = [] := by
      rcases List.eq_nil_or_concat more with none | ⟨front, final, rfl⟩
      · exact none
      · have last := lineage.last
        rw [List.concat_eq_append, ← List.append_assoc, List.getLast?_concat] at last
        cases last
        rw [List.concat_eq_append, ← List.append_assoc] at unique
        have apart := (List.nodup_append.mp unique).2.2 artifactId (List.mem_append_left _ cut)
          artifactId List.mem_cons_self
        exact absurd rfl apart
    subst only
    rw [List.append_nil] at lineage
    refine ⟨.inl inside, fun node among late => ?_, fun ancestor up => ?_⟩
    · have within := (mem_drop_iff ordered.distinct).mpr ⟨among, late⟩
      exact ((lineage.exact node).mp within).imp_right (exact node).mpr
    · have within := (lineage.exact ancestor).mpr (.inr ((exact ancestor).mp up))
      exact ((mem_drop_iff ordered.distinct).mp within).2
  · intro sole
    have whole : ∀ node, node ∈ listed.drop (listed.idxOf root) ↔
        node = artifactId ∨ TransGen tracker.graph.Edge node artifactId := by
      intro node
      rw [← exact node]
      constructor
      · intro within
        obtain ⟨among, late⟩ := (mem_drop_iff ordered.distinct).mp within
        exact sole.related node among late
      · rintro (rfl | up)
        · exact cut
        · exact (mem_drop_iff ordered.distinct).mpr ⟨held node up, sole.after node up⟩
    have only : more = [] := by
      refine List.eq_nil_iff_forall_not_mem.mpr (fun node picked => ?_)
      obtain ⟨other, among, late⟩ := sources node picked
      obtain ⟨present, position⟩ := (mem_drop_iff ordered.distinct).mp late
      have further : listed.idxOf root ≤ listed.idxOf other := by
        rcases among with rfl | up
        · exact ((mem_drop_iff ordered.distinct).mp cut).2
        · exact sole.after other up
      have within := (mem_drop_iff ordered.distinct).mpr ⟨present, further.trans position⟩
      exact (List.nodup_append.mp unique).2.2 node within node picked rfl
    subst only
    rw [List.append_nil]
    exact ordered.lineage whole

end LineageTracker

/-- In every state that a graph reaches, the chain of an artifact is its lineage exactly where the
topological order, from the first root among its ancestors on, lists all of them and nothing that
is not an ancestor or the artifact. -/
theorem full_chain_exact (graphCalls : List GraphCall) (order : SetOrder) (artifactId : String) :
    let tracker : LineageTracker := ⟨(run graphStep DependencyGraph.empty graphCalls).2⟩
    ∃ above listed chain, tracker.ancestors order artifactId = some above ∧
      tracker.graph.topologicalOrder order = .ok listed ∧
      tracker.fullChain order artifactId = some (.ok chain) ∧
      (LineageTracker.Lineage tracker.graph artifactId chain ↔
        tracker.SoleDescent artifactId above listed) := by
  intro tracker
  have sound : tracker.graph.Sound := graph_sound graphCalls
  obtain ⟨above, up, _, exact⟩ := LineageTracker.ancestors_spec order sound artifactId
  obtain ⟨listed, sorted, ordered⟩ := LineageTracker.exists_ordered sound order
  have built (chain : List String) (chained : tracker.chainOf order artifactId above = .ok chain) :
      tracker.fullChain order artifactId = some (.ok chain) := by
    rw [LineageTracker.fullChain, up, Option.map_some, chained]
  by_cases inside : artifactId ∈ listed
  · obtain ⟨chain, chained, same⟩ :=
      LineageTracker.chainOf_listed sound sorted ordered inside exact
    exact ⟨above, listed, chain, up, sorted, built chain chained, same⟩
  · obtain ⟨chained, same⟩ := LineageTracker.chainOf_unlisted sound sorted ordered inside exact
    exact ⟨above, listed, _, up, sorted, built _ chained, same⟩

/-- The chain of an artifact in the middle goes on to what was made from it. -/
theorem full_chain_downstream :
    let tracker : LineageTracker := ⟨(run graphStep DependencyGraph.empty
      [.add .asStored ⟨"page", "text", "produced_by", ""⟩,
        .add .asStored ⟨"text", "index", "produced_by", ""⟩]).2⟩
    tracker.fullChain .asStored "text" = some (.ok ["page", "text", "index"]) ∧
      ¬ LineageTracker.Lineage tracker.graph "text" ["page", "text", "index"] := by
  refine ⟨by decide +kernel, fun lineage => ?_⟩
  have last := lineage.last
  simp at last

end LexMind.Artifacts
