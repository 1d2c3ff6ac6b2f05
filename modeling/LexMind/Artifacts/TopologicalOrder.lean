import LexMind.Artifacts.GraphInvariant

set_option autoImplicit false

namespace LexMind.Artifacts

open Lib Relation

/-- The counters are those of the nodes, with the given values. -/
structure Counted (degrees : Degrees) (nodes : List String) (count : String → Int) : Prop where
  present : ∀ node ∈ nodes, degrees.find? node = some (node, count node)
  absent : ∀ node, node ∉ nodes → degrees.find? node = none

namespace Counted

variable {degrees : Degrees} {nodes : List String} {count : String → Int}

theorem empty : Counted .empty [] count := ⟨by simp, by simp⟩

theorem congr {other : String → Int} (counted : Counted degrees nodes count)
    (same : ∀ node ∈ nodes, other node = count node) : Counted degrees nodes other :=
  ⟨fun node inside => by rw [same node inside]; exact counted.present node inside, counted.absent⟩

theorem congr_nodes {others : List String} (counted : Counted degrees nodes count)
    (same : ∀ node, node ∈ others ↔ node ∈ nodes) : Counted degrees others count :=
  ⟨fun node inside => counted.present node ((same node).mp inside),
    fun node outside => counted.absent node (fun inside => outside ((same node).mpr inside))⟩

/-- Setting a counter, of a node that has one or of a new node. -/
theorem put (counted : Counted degrees nodes count) (node : String) (value : Int) :
    Counted (degrees.put (node, value)) (node :: nodes) (Function.update count node value) := by
  constructor
  · intro other inside
    rw [Keyed.find?_put]
    by_cases same : node = other
    · subst same
      simp
    · simp only [same, ↓reduceIte, Function.update_of_ne (Ne.symm same)]
      exact counted.present other ((List.mem_cons.mp inside).resolve_left (Ne.symm same))
  · intro other outside
    rw [List.mem_cons, not_or] at outside
    rw [Keyed.find?_put, if_neg (Ne.symm outside.1)]
    exact counted.absent other outside.2

theorem put_mem (counted : Counted degrees nodes count) {node : String} (inside : node ∈ nodes)
    (value : Int) :
    Counted (degrees.put (node, value)) nodes (Function.update count node value) :=
  (counted.put node value).congr_nodes (fun other => by
    rw [List.mem_cons]
    exact ⟨.inr, fun held => held.elim (fun same => same ▸ inside) (fun held => held)⟩)

theorem mem_map_fst (counted : Counted degrees nodes count) (node : String) :
    node ∈ degrees.rows.map Prod.fst ↔ node ∈ nodes := by
  constructor
  · intro inside
    by_contra outside
    obtain ⟨row, listed, rfl⟩ := List.mem_map.mp inside
    have found := degrees.find?_of_mem listed
    rw [counted.absent row.1 outside] at found
    cases found
  · exact fun inside => List.mem_map.mpr
      ⟨_, Keyed.mem_of_find? (counted.present node inside), rfl⟩

theorem value_of_mem (counted : Counted degrees nodes count) {row : String × Int}
    (inside : row ∈ degrees.rows) : row.2 = count row.1 := by
  have listed := (counted.mem_map_fst row.1).mp (List.mem_map_of_mem inside)
  have found := counted.present row.1 listed
  rw [degrees.find?_of_mem inside] at found
  exact congrArg Prod.snd (Option.some.inj found)

theorem length_rows (counted : Counted degrees nodes count) (distinct : nodes.Nodup) :
    degrees.rows.length = nodes.length := by
  rw [← List.length_map Prod.fst]
  exact ((List.perm_ext_iff_of_nodup degrees.distinct distinct).mpr counted.mem_map_fst).length_eq

end Counted

/-- `dict.fromkeys`. -/
theorem counted_zero {degrees : Degrees} {nodes : List String} (fresh : List String)
    (counted : Counted degrees nodes (fun _ => 0)) :
    Counted (fresh.foldl (fun degrees node => degrees.put (node, 0)) degrees) (fresh ++ nodes)
      (fun _ => 0) := by
  induction fresh generalizing degrees nodes with
  | nil => exact counted
  | cons node rest ih =>
      have first : Counted (degrees.put (node, 0)) (node :: nodes) (fun _ => 0) :=
        (counted.put node 0).congr (fun other _ => by
          by_cases same : other = node <;> simp [same])
      exact (ih first).congr_nodes (fun other => by
        simp only [List.cons_append, List.mem_cons, List.mem_append]
        tauto)

/-- Counting each listed node once more. -/
theorem counted_increment {degrees : Degrees} {nodes : List String} {count : String → Int}
    (listed : List String) (counted : Counted degrees nodes count)
    (known : ∀ node ∈ listed, node ∈ nodes) :
    Counted (listed.foldl (fun degrees node =>
        degrees.put (node, ((degrees.find? node).map Prod.snd).getD 0 + 1)) degrees) nodes
      (fun node => count node + listed.count node) := by
  induction listed generalizing degrees count with
  | nil => exact counted.congr (by simp)
  | cons node rest ih =>
      have inside := known node List.mem_cons_self
      have first := counted.put_mem inside (count node + 1)
      rw [List.foldl_cons, counted.present node inside]
      refine (ih first (fun other later => known other (List.mem_cons_of_mem _ later))).congr ?_
      intro other _
      by_cases same : other = node
      · subst same
        simp only [Function.update_self, List.count_cons_self]
        push_cast
        omega
      · rw [Function.update_of_ne same, List.count_cons_of_ne (Ne.symm same)]

theorem count_flatMap_distinct {ρ : Type} (rows : List ρ) (pick : ρ → List String) (node : String)
    (distinct : ∀ row ∈ rows, (pick row).Nodup) :
    (rows.flatMap pick).count node = (rows.filter (fun row => node ∈ pick row)).length := by
  induction rows with
  | nil => rfl
  | cons row rest ih =>
      have later := ih (fun other inside => distinct other (List.mem_cons_of_mem _ inside))
      rw [List.flatMap_cons, List.count_append, later]
      by_cases inside : node ∈ pick row
      · rw [List.count_eq_one_of_mem (distinct row List.mem_cons_self) inside,
          List.filter_cons_of_pos (by simpa using inside), List.length_cons, Nat.add_comm]
      · rw [List.count_eq_zero_of_not_mem inside, List.filter_cons_of_neg (by simpa using inside),
          Nat.zero_add]

/-- One pass over distinct children: each count drops by one, and those that were at one
are queued. -/
theorem relax_spec {degrees : Degrees} {nodes : List String} {count : String → Int}
    (counted : Counted degrees nodes count) (queue children : List String)
    (known : ∀ child ∈ children, child ∈ nodes) (distinct : children.Nodup) :
    ∃ after, DependencyGraph.relax children (degrees, queue) =
        .ok (after, queue ++ children.filter (fun child => count child = 1)) ∧
      Counted after nodes (fun node => if node ∈ children then count node - 1 else count node) := by
  induction children generalizing degrees queue count with
  | nil => exact ⟨degrees, by simp [DependencyGraph.relax], by simpa using counted⟩
  | cons child rest ih =>
      obtain ⟨apart, distinct⟩ := List.nodup_cons.mp distinct
      have listed := known child List.mem_cons_self
      have found := counted.present child listed
      obtain ⟨after, done, final⟩ := ih (counted.put_mem listed (count child - 1))
        (if count child - 1 = 0 then queue ++ [child] else queue)
        (fun other inside => known other (List.mem_cons_of_mem _ inside)) distinct
      have others : ∀ other ∈ rest, Function.update count child (count child - 1) other =
          count other := by
        intro other inside
        have differs : other ≠ child := fun same => apart (same ▸ inside)
        exact Function.update_of_ne differs _ _
      refine ⟨after, ?_, final.congr ?_⟩
      · have queued : rest.filter (fun other =>
              decide (Function.update count child (count child - 1) other = 1)) =
            rest.filter (fun other => decide (count other = 1)) :=
          List.filter_congr (fun other inside => by rw [others other inside])
        rw [DependencyGraph.relax, found]
        simp only
        rw [done, queued]
        by_cases last : count child = 1
        · simp [last]
        · have more : count child - 1 ≠ 0 := by omega
          simp [last, more]
      · intro node _
        by_cases same : node = child
        · subst same
          simp [apart]
        · simp [same]

namespace DependencyGraph

/-- The parents of a node that are not in the result yet. -/
def unfinished (graph : DependencyGraph) (result : List String) (node : String) : List String :=
  (graph.parents node).rows.filter (· ∉ result)

theorem unfinished_snoc (graph : DependencyGraph) (result : List String) (node other : String) :
    graph.unfinished (result ++ [node]) other = (graph.unfinished result other).filter (· ≠ node) := by
  simp only [unfinished, List.filter_filter]
  apply List.filter_congr
  intro parent _
  simp [and_comm]

theorem parents_nodup (graph : DependencyGraph) (node : String) : (graph.parents node).rows.Nodup := by
  simpa using (graph.parents node).distinct

theorem children_nodup (graph : DependencyGraph) (node : String) :
    (graph.children node).rows.Nodup := by
  simpa using (graph.children node).distinct

/-- A finished parent takes one off the count of each child. -/
theorem length_unfinished_snoc (graph : DependencyGraph) {result : List String} {node other : String}
    (fresh : node ∉ result) :
    ((graph.unfinished (result ++ [node]) other).length : Int) =
      if node ∈ (graph.parents other).rows then ((graph.unfinished result other).length : Int) - 1
      else (graph.unfinished result other).length := by
  have distinct : (graph.unfinished result other).Nodup := (graph.parents_nodup other).filter _
  have listed : node ∈ graph.unfinished result other ↔ node ∈ (graph.parents other).rows := by
    simp [unfinished, fresh]
  rw [unfinished_snoc]
  split
  · rename_i parent
    have inside := listed.mpr parent
    have positive := List.length_pos_of_mem inside
    have erased : (graph.unfinished result other).filter (· ≠ node) =
        (graph.unfinished result other).erase node := by
      rw [distinct.erase_eq_filter]
      exact List.filter_congr (fun parent _ => by by_cases same : parent = node <;> simp [same])
    rw [erased, List.length_erase_of_mem inside]
    omega
  · rename_i outside
    rw [List.filter_eq_self.mpr]
    intro parent inside
    have differs : parent ≠ node := fun same => outside (listed.mp (same ▸ inside))
    simpa using differs

/-- What the loop keeps between two iterations. -/
structure Draining (graph : DependencyGraph) (degrees : Degrees) (queue result : List String) :
    Prop where
  counted : Counted degrees graph.allArtifacts (fun node => (graph.unfinished result node).length)
  distinct : (result ++ queue).Nodup
  ready : ∀ node, node ∈ result ++ queue ↔
    node ∈ graph.allArtifacts ∧ ∀ parent, graph.Edge parent node → parent ∈ result
  ordered : ∀ front node back, result = front ++ node :: back →
    ∀ parent, graph.Edge parent node → parent ∈ front

variable {graph : DependencyGraph}

/-- The only parent left is the node when the count is one. -/
theorem Sound.last_parent (sound : graph.Sound) {result : List String} {node child : String}
    (fresh : node ∉ result) (edge : graph.Edge node child) :
    (graph.unfinished result child).length = 1 ↔
      ∀ parent, graph.Edge parent child → parent ∈ result ++ [node] := by
  have mem : ∀ parent, parent ∈ graph.unfinished result child ↔
      graph.Edge parent child ∧ parent ∉ result := by
    intro parent
    simp [unfinished, sound.transposed]
  have held := (mem node).mpr ⟨edge, fresh⟩
  constructor
  · intro single parent other
    obtain ⟨only, same⟩ := List.length_eq_one_iff.mp single
    rw [same, List.mem_singleton] at held
    by_contra outside
    rw [List.mem_append, not_or, List.mem_singleton] at outside
    have unfinished := (mem parent).mpr ⟨other, outside.1⟩
    rw [same, List.mem_singleton] at unfinished
    exact outside.2 (unfinished.trans held.symm)
  · intro finished
    have distinct : (graph.unfinished result child).Nodup := (graph.parents_nodup child).filter _
    have only : ∀ parent ∈ graph.unfinished result child, parent = node := by
      intro parent inside
      obtain ⟨other, outside⟩ := (mem parent).mp inside
      rcases List.mem_append.mp (finished parent other) with done | last
      · exact absurd done outside
      · exact List.mem_singleton.mp last
    have same : graph.unfinished result child = [node] :=
      (List.perm_ext_iff_of_nodup distinct (List.nodup_singleton node)).mpr (fun parent =>
        ⟨fun inside => List.mem_singleton.mpr (only parent inside),
          fun single => List.mem_singleton.mp single ▸ held⟩) |>.eq_singleton
    rw [same]
    rfl

/-- The children at count one are those whose last parent is the node. -/
theorem Sound.mem_freed (sound : graph.Sound) {result listed : List String} {node : String}
    (fresh : node ∉ result) (children : ∀ child, child ∈ listed ↔ graph.Edge node child)
    (child : String) :
    child ∈ listed.filter (fun child => ((graph.unfinished result child).length : Int) = 1) ↔
      graph.Edge node child ∧ ∀ parent, graph.Edge parent child → parent ∈ result ++ [node] := by
  rw [List.mem_filter, children]
  constructor
  · rintro ⟨edge, one⟩
    have count := of_decide_eq_true one
    exact ⟨edge, (sound.last_parent fresh edge).mp (by omega)⟩
  · rintro ⟨edge, finished⟩
    have count := (sound.last_parent fresh edge).mpr finished
    exact ⟨edge, decide_eq_true (by omega)⟩

namespace Draining

variable {degrees : Degrees} {node : String} {queue result : List String}

/-- The node taken from the queue is not in the result yet. -/
theorem next_fresh (draining : graph.Draining degrees (node :: queue) result) : node ∉ result := by
  intro inside
  have apart := List.nodup_append.mp draining.distinct
  exact apart.2.2 node inside node List.mem_cons_self rfl

/-- The nodes a finished node frees are ready with it, and no others become so. -/
theorem next_ready (sound : graph.Sound)
    (draining : graph.Draining degrees (node :: queue) result) {freed : List String}
    (mem_freed : ∀ child, child ∈ freed ↔
      graph.Edge node child ∧ ∀ parent, graph.Edge parent child → parent ∈ result ++ [node])
    (other : String) :
    other ∈ result ++ [node] ++ (queue ++ freed) ↔
      other ∈ graph.allArtifacts ∧
        ∀ parent, graph.Edge parent other → parent ∈ result ++ [node] := by
  rw [List.append_assoc, List.singleton_append, ← List.cons_append, ← List.append_assoc,
    List.mem_append, mem_freed, draining.ready other]
  constructor
  · rintro (⟨listed, finished⟩ | ⟨edge, finished⟩)
    · exact ⟨listed, fun parent edge => List.mem_append_left _ (finished parent edge)⟩
    · exact ⟨(sound.listed edge).2, finished⟩
  · rintro ⟨listed, finished⟩
    by_cases edge : graph.Edge node other
    · exact .inr ⟨edge, finished⟩
    · refine .inl ⟨listed, fun parent step => ?_⟩
      rcases List.mem_append.mp (finished parent step) with done | last
      · exact done
      · exact absurd (List.mem_singleton.mp last ▸ step) edge

/-- The freed nodes are new to both lists: their parent was not finished before. -/
theorem next_distinct (draining : graph.Draining degrees (node :: queue) result)
    {freed : List String} (single : freed.Nodup)
    (edges : ∀ child ∈ freed, graph.Edge node child) :
    (result ++ [node] ++ (queue ++ freed)).Nodup := by
  have reordered : result ++ [node] ++ (queue ++ freed) = (result ++ node :: queue) ++ freed := by
    simp
  rw [reordered]
  refine List.nodup_append.mpr ⟨draining.distinct, single, ?_⟩
  rintro child inside other late rfl
  have early := ((draining.ready child).mp inside).2 node (edges child late)
  exact draining.next_fresh early

theorem next_ordered (draining : graph.Draining degrees (node :: queue) result)
    (front : List String) (last : String) (back : List String)
    (split : result ++ [node] = front ++ last :: back) (parent : String)
    (edge : graph.Edge parent last) : parent ∈ front := by
  rcases List.eq_nil_or_concat back with rfl | ⟨inner, final, rfl⟩
  · obtain ⟨rfl, same⟩ := List.append_inj' split rfl
    cases same
    exact ((draining.ready node).mp (by simp)).2 parent edge
  · have shorter : result ++ [node] = (front ++ last :: inner) ++ [final] := by simpa using split
    obtain ⟨same, _⟩ := List.append_inj' shorter rfl
    exact draining.ordered front last inner same parent edge

/-- One iteration keeps the invariant. -/
theorem step (sound : graph.Sound) (order : SetOrder)
    (draining : graph.Draining degrees (node :: queue) result) :
    ∃ after queued, relax ((order.neighbours node).arrange (graph.children node).rows)
        (degrees, queue) = .ok (after, queued) ∧
      graph.Draining after queued (result ++ [node]) := by
  have fresh := draining.next_fresh
  have children : ∀ child, child ∈ (order.neighbours node).arrange (graph.children node).rows ↔
      graph.Edge node child := fun child => by simp [Edge]
  have single : ((order.neighbours node).arrange (graph.children node).rows).Nodup :=
    ((order.neighbours node).perm _).nodup_iff.mpr (graph.children_nodup node)
  have freed := sound.mem_freed fresh children
  obtain ⟨after, done, counted⟩ := relax_spec draining.counted queue _
    (fun child inside => (sound.listed ((children child).mp inside)).2) single
  refine ⟨after, _, done, ?_, ?_, draining.next_ready sound freed, draining.next_ordered⟩
  · apply counted.congr
    intro other _
    rw [graph.length_unfinished_snoc fresh]
    simp only [children, sound.transposed]
  · exact draining.next_distinct (single.filter _) (fun child inside => ((freed child).mp inside).1)

end Draining

/-- An empty queue leaves no artifact behind: one of those missing would have all its
parents in the result. -/
theorem Draining.complete (sound : graph.Sound) {degrees : Degrees} {result : List String}
    (draining : graph.Draining degrees [] result) (node : String) :
    node ∈ result ↔ node ∈ graph.allArtifacts := by
  constructor
  · intro inside
    exact ((draining.ready node).mp (by simpa using inside)).1
  · intro listed
    by_contra missing
    have some : graph.allArtifacts.filter (· ∉ result) ≠ [] :=
      List.ne_nil_of_mem (List.mem_filter.mpr ⟨listed, by simpa using missing⟩)
    obtain ⟨source, inside, unparented⟩ := sound.acyclic.exists_source some
    obtain ⟨known, absent⟩ := List.mem_filter.mp inside
    have finished : ∀ parent, graph.Edge parent source → parent ∈ result := by
      intro parent edge
      by_contra outside
      exact unparented parent
        (List.mem_filter.mpr ⟨(sound.listed edge).1, by simpa using outside⟩) edge
    have done := (draining.ready source).mpr ⟨known, finished⟩
    simp at done absent
    exact absent done

theorem Draining.length_le {degrees : Degrees} {queue result : List String}
    (draining : graph.Draining degrees queue result) :
    result.length + queue.length ≤ graph.allArtifacts.length := by
  rw [← List.length_append]
  exact (draining.distinct.subperm
    (fun node inside => ((draining.ready node).mp inside).1)).length_le

theorem drainQueue_spec (sound : graph.Sound) (order : SetOrder) {fuel : Nat} {degrees : Degrees}
    {queue result : List String} (draining : graph.Draining degrees queue result)
    (enough : graph.allArtifacts.length ≤ fuel + result.length) :
    ∃ list final, graph.drainQueue order fuel (degrees, queue) result = .ok list ∧
      graph.Draining final [] list := by
  induction fuel generalizing degrees queue result with
  | zero =>
      cases queue with
      | nil => exact ⟨result, degrees, rfl, draining⟩
      | cons node queue =>
          have room := draining.length_le
          rw [List.length_cons] at room
          omega
  | succ fuel ih =>
      cases queue with
      | nil => exact ⟨result, degrees, rfl, draining⟩
      | cons node queue =>
          obtain ⟨after, queued, relaxed, next⟩ := draining.step sound order
          obtain ⟨list, final, done, last⟩ := ih next (by
            rw [List.length_append, List.length_singleton]
            omega)
          exact ⟨list, final, by rw [drainQueue, relaxed]; exact done, last⟩

/-- Each node is counted once for each of its parents. -/
theorem Sound.counted_inDegree (sound : graph.Sound) (order : SetOrder) :
    Counted (graph.inDegree order) graph.allArtifacts
      (fun node => (graph.unfinished [] node).length) := by
  have zero : Counted ((order.artifacts.arrange graph.allArtifacts).foldl
      (fun (degrees : Degrees) artifact => degrees.put (artifact, 0)) .empty)
      graph.allArtifacts (fun _ => 0) :=
    (counted_zero _ .empty).congr_nodes (fun node => by simp)
  have picked : ∀ row ∈ graph.edges.rows,
      ((order.neighbours row.1).arrange row.2.rows).Nodup := fun row _ =>
    ((order.neighbours row.1).perm _).nodup_iff.mpr (by simpa using row.2.distinct)
  have edge : ∀ row ∈ graph.edges.rows, ∀ child, child ∈ row.2.rows ↔ graph.Edge row.1 child := by
    intro row inside child
    rw [Edge, children, Adjacency.successors_of_find? graph.edges row.1
      (graph.edges.find?_of_mem inside)]
  refine (counted_increment _ zero ?_).congr ?_
  · intro child inside
    obtain ⟨row, listed, held⟩ := List.mem_flatMap.mp inside
    exact (sound.listed ((edge row listed child).mp (by simpa using held))).2
  · intro child _
    have parents : ((graph.edges.rows.filter (fun row =>
        child ∈ (order.neighbours row.1).arrange row.2.rows)).map Prod.fst).Perm
        (graph.unfinished [] child) := by
      refine (List.perm_ext_iff_of_nodup ?_ ((graph.parents_nodup child).filter _)).mpr ?_
      · exact (List.filter_sublist.map Prod.fst).nodup graph.edges.distinct
      · intro parent
        simp only [List.not_mem_nil, not_false_eq_true, decide_true, List.filter_true,
          ← sound.transposed, List.mem_map, List.mem_filter, Arrangement.mem_arrange,
          decide_eq_true_eq]
        constructor
        · rintro ⟨row, ⟨listed, held⟩, rfl⟩
          exact (edge row listed child).mp held
        · intro step
          obtain ⟨set, found⟩ := (Adjacency.mem_keys _ _).mp (Adjacency.mem_keys_of_mem _ _ _ step)
          have listed := Keyed.mem_of_find? found
          exact ⟨(parent, set), ⟨listed, (edge _ listed child).mpr step⟩, rfl⟩
    rw [count_flatMap_distinct _ _ _ picked, ← parents.length_eq, List.length_map, Int.zero_add]

theorem Sound.draining_start (sound : graph.Sound) (order : SetOrder) :
    graph.Draining (graph.inDegree order)
      (((graph.inDegree order).rows.filter (fun row => row.2 = 0)).map Prod.fst) [] where
  counted := sound.counted_inDegree order
  distinct := (List.filter_sublist.map Prod.fst).nodup (graph.inDegree order).distinct
  ready := fun node => by
    have counted := sound.counted_inDegree order
    have free : (graph.unfinished [] node).length = 0 ↔
        ∀ parent, graph.Edge parent node → parent ∈ ([] : List String) := by
      simp [unfinished, List.eq_nil_iff_forall_not_mem, sound.transposed]
    rw [List.nil_append, ← free, List.mem_map]
    constructor
    · rintro ⟨row, inside, rfl⟩
      obtain ⟨listed, zero⟩ := List.mem_filter.mp inside
      have value := counted.value_of_mem listed
      have none := of_decide_eq_true zero
      exact ⟨(counted.mem_map_fst row.1).mp (List.mem_map_of_mem listed), by omega⟩
    · rintro ⟨listed, none⟩
      exact ⟨_, List.mem_filter.mpr ⟨Keyed.mem_of_find? (counted.present node listed), by
        simp [none]⟩, rfl⟩
  ordered := fun front node back split => by simp at split

/-- In a sound graph the order exists, holds every artifact once, and parents first. -/
theorem Sound.topologicalOrder (sound : graph.Sound) (order : SetOrder) :
    ∃ list, graph.topologicalOrder order = .ok list ∧ list.Nodup ∧
      (∀ node, node ∈ list ↔ node ∈ graph.allArtifacts) ∧
      ∀ parent child, graph.Edge parent child → list.idxOf parent < list.idxOf child := by
  have counted := sound.counted_inDegree order
  have distinct : graph.allArtifacts.Nodup := List.nodup_dedup _
  have enough : graph.allArtifacts.length ≤
      (graph.inDegree order).rows.length + ([] : List String).length := by
    rw [counted.length_rows distinct]
    exact Nat.le_refl _
  obtain ⟨list, final, done, last⟩ :=
    drainQueue_spec sound order (sound.draining_start order) enough
  have complete := last.complete sound
  have unique : list.Nodup := by simpa using last.distinct
  have length : list.length = (graph.inDegree order).rows.length :=
    ((List.perm_ext_iff_of_nodup unique distinct).mpr complete).length_eq.trans
      (counted.length_rows distinct).symm
  refine ⟨list, ?_, unique, complete, ?_⟩
  · simp only [DependencyGraph.topologicalOrder, done, length, bind, Except.bind, ne_eq,
      not_true_eq_false, ↓reduceIte, pure, Except.pure]
  · intro parent child edge
    obtain ⟨front, back, split⟩ :=
      List.append_of_mem ((complete child).mpr (sound.listed edge).2)
    have before := last.ordered front child back split parent edge
    subst split
    exact idxOf_lt_of_front unique before

end DependencyGraph

/-- After any calls on the empty graph, failed ones included, the maps agree, the graph
is acyclic and has a topological order, and `add` raises exactly on what would close a
cycle, without a change. -/
theorem graph_invariant (calls : List GraphCall) :
    (∀ parent child,
      child ∈ ((run graphStep .empty calls).2.edges.successors parent).rows ↔
        parent ∈ ((run graphStep .empty calls).2.reverse.successors child).rows) ∧
    (∀ node, ¬ TransGen (run graphStep .empty calls).2.Edge node node) ∧
    (∀ order, ∃ list, (run graphStep .empty calls).2.topologicalOrder order = .ok list ∧
      list.Nodup ∧ (∀ node, node ∈ list ↔ node ∈ (run graphStep .empty calls).2.allArtifacts) ∧
      ∀ parent child, (run graphStep .empty calls).2.Edge parent child →
        list.idxOf parent < list.idxOf child) ∧
    ∀ order dep,
      ((∃ exc, (graphStep (run graphStep .empty calls).2 (.add order dep)).1 = .error exc) ↔
        dep.parentId = dep.childId ∨
          ReflTransGen (run graphStep .empty calls).2.Edge dep.childId dep.parentId) ∧
      ((∃ exc, (graphStep (run graphStep .empty calls).2 (.add order dep)).1 = .error exc) →
        (graphStep (run graphStep .empty calls).2 (.add order dep)).2 =
          (run graphStep .empty calls).2) := by
  have sound := graph_sound calls
  refine ⟨sound.transposed, sound.acyclic, sound.topologicalOrder, fun order dep => ?_⟩
  rcases DependencyGraph.add_cases (run graphStep .empty calls).2 order dep with
    ⟨message, refused, reason⟩ | ⟨added, apart, clear⟩
  · rw [graphStep, GraphCall.program, refused]
    exact ⟨⟨fun _ => reason, fun _ => ⟨_, rfl⟩⟩, fun _ => rfl⟩
  · rw [graphStep, GraphCall.program, added]
    refine ⟨⟨?_, ?_⟩, ?_⟩
    · rintro ⟨exc, raised⟩
      cases raised
    · rintro (same | path)
      · exact absurd same apart
      · exact absurd path clear
    · rintro ⟨exc, raised⟩
      cases raised

end LexMind.Artifacts
