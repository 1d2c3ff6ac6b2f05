import LexMind.Lib.DepthFirst
import LexMind.Pipeline.DependencyValidation

set_option autoImplicit false

namespace LexMind.Pipelines

open Lib Relation

namespace DependencyTable

variable (table : DependencyTable)

def keys : List StageId := table.rows.map Prod.fst

/-- The dependencies of a stage; none where it is not registered. -/
def dependenciesOf (stageId : StageId) : List StageId :=
  ((table.find? stageId).map Prod.snd).getD []

def cycleError (_ : List StageId) (stageId : StageId) : PyExc :=
  .stageDependency ("Dependency cycle at '" ++ stageId.value ++ "'")

/-- The marks of the search as the visit keeps them. -/
def toTopo (marks : DepthFirst.Marks StageId) : Toposort :=
  ⟨marks.entered, marks.finished.reverse, marks.finished⟩

variable {table}

theorem mem_keys (stageId : StageId) :
    stageId ∈ table.keys ↔ ∃ dependencies, table.find? stageId = some (stageId, dependencies) := by
  rw [keys, List.mem_map]
  constructor
  · rintro ⟨row, inside, rfl⟩
    exact ⟨row.2, table.find?_of_mem inside⟩
  · rintro ⟨dependencies, found⟩
    exact ⟨_, Keyed.mem_of_find? found, rfl⟩

theorem contains_iff (stageId : StageId) : table.contains stageId = true ↔ stageId ∈ table.keys := by
  rw [Keyed.contains_eq_true_iff, mem_keys]
  constructor
  · rintro ⟨⟨key, dependencies⟩, found⟩
    cases Keyed.key_of_find? found
    exact ⟨dependencies, found⟩
  · rintro ⟨dependencies, found⟩
    exact ⟨_, found⟩

theorem mem_keys_of_dependency {first second : StageId} (edge : second ∈ table.dependenciesOf first) :
    first ∈ table.keys := by
  rw [mem_keys]
  unfold dependenciesOf at edge
  cases found : table.find? first with
  | none =>
      rw [found] at edge
      cases edge
  | some row =>
      obtain ⟨key, dependencies⟩ := row
      cases Keyed.key_of_find? found
      exact ⟨dependencies, rfl⟩

/-- Every dependency is one of the registered stages. -/
def Registered (table : DependencyTable) : Prop :=
  ∀ first, ∀ second ∈ table.dependenciesOf first, second ∈ table.keys

theorem checkMissing_iff : table.checkMissing = .ok () ↔ table.Registered := by
  rw [checkMissing_ok_iff]
  simp only [contains_iff]
  constructor
  · intro all first second edge
    obtain ⟨dependencies, found⟩ := (mem_keys first).mp (mem_keys_of_dependency edge)
    rw [dependenciesOf, found] at edge
    exact all _ (Keyed.mem_of_find? found) second edge
  · intro all row inside dependency needed
    refine all row.1 dependency ?_
    rw [dependenciesOf, table.find?_of_mem inside]
    exact needed

/-- The first missing dependency is reported as such. -/
theorem checkMissing_error {exc : PyExc} (raised : table.checkMissing = .error exc) :
    ∃ message, exc = .stageDependency message := by
  obtain ⟨row, _, inner⟩ := forM_raised raised
  obtain ⟨dependency, _, missing⟩ := forM_raised inner
  split at missing
  · cases missing
  · cases missing
    exact ⟨_, rfl⟩

/-- The visit is the depth-first search over the dependencies. -/
theorem visit_toTopo (registered : table.Registered) (fuel : Nat) (marks : DepthFirst.Marks StageId)
    {stageId : StageId} (inside : stageId ∈ table.keys) :
    table.visit fuel (toTopo marks) stageId =
      (DepthFirst.visit table.dependenciesOf cycleError fuel marks stageId).map toTopo := by
  induction fuel generalizing marks stageId with
  | zero => rfl
  | succ fuel ih =>
      obtain ⟨dependencies, found⟩ := (mem_keys stageId).mp inside
      have listed : table.dependenciesOf stageId = dependencies := by
        rw [dependenciesOf, found]
        rfl
      have nested : ∀ state, ∀ other ∈ dependencies, table.visit fuel (toTopo state) other =
          (DepthFirst.visit table.dependenciesOf cycleError fuel state other).map toTopo :=
        fun state other needed => ih state (registered stageId other (listed ▸ needed))
      have inner := foldlM_image nested { marks with entered := stageId :: marks.entered }
      rw [visit, DepthFirst.visit, listed, found]
      have seen : stageId ∈ (toTopo marks).visited ↔ stageId ∈ marks.finished := List.mem_reverse
      have underVisit : stageId ∈ (toTopo marks).visiting ↔ stageId ∈ marks.entered := Iff.rfl
      by_cases finished : stageId ∈ marks.finished
      · rw [if_pos (seen.mpr finished), if_pos finished]
        rfl
      rw [if_neg (mt seen.mp finished), if_neg finished]
      by_cases entered : stageId ∈ marks.entered
      · rw [if_pos (underVisit.mpr entered), if_pos entered]
        rfl
      rw [if_neg (mt underVisit.mp entered), if_neg entered]
      show (dependencies.foldlM (table.visit fuel)
          (toTopo { marks with entered := stageId :: marks.entered }) >>= _) = _
      rw [inner]
      cases dependencies.foldlM (DepthFirst.visit table.dependenciesOf cycleError fuel)
          { marks with entered := stageId :: marks.entered } with
      | error exc => rfl
      | ok after => simp [toTopo, bind, Except.bind, pure, Except.pure, Except.map]

/-- A nesting deeper than one visit for each stage is never reached. -/
theorem visits_fuel (table : DependencyTable) (extra : Nat) :
    table.keys.foldlM (table.visit (table.rows.length + 1 + extra)) ⟨[], [], []⟩ =
      table.keys.foldlM (table.visit (table.rows.length + 1)) ⟨[], [], []⟩ := by
  induction extra with
  | zero => rfl
  | succ extra ih =>
      have visited (topo : Toposort) (stageId : StageId) (outermost : topo.visiting = []) :=
        table.visit_spec (table.rows.length + 1 + extra) topo stageId
          (by rw [outermost]; exact ⟨List.nodup_nil, List.nil_subset _⟩) (by omega)
      rw [← ih]
      have keeps (topo : Toposort) (stageId : StageId) (next : Toposort)
          (outermost : topo.visiting = [])
          (returned : table.visit (table.rows.length + 1 + extra) topo stageId = .ok next) :
          next.visiting = [] :=
        ((visited topo stageId outermost).1 next returned).trans outermost
      exact foldlM_congr keeps _ (fun stageId _ topo outermost => (visited topo stageId outermost).2)
        rfl

/-- The sort raises at a cycle, or lists the stages with the dependencies of each before it. -/
theorem toposort_cases (registered : table.Registered) :
    (∃ message, table.toposort = .error (.stageDependency message) ∧
      ∃ stageId, TransGen (fun first second => second ∈ table.dependenciesOf first)
        stageId stageId) ∨
    ∃ order, table.toposort = .ok order ∧ order.Perm table.keys ∧
      (∀ front stageId back, order = front ++ stageId :: back →
        ∀ dependency ∈ table.dependenciesOf stageId, dependency ∈ front) ∧
      Acyclic (fun first second => second ∈ table.dependenciesOf first) := by
  have length : table.keys.length = table.rows.length := List.length_map _
  have image := foldlM_image
    (fun marks stageId inside => visit_toTopo registered (table.rows.length + 1) marks inside)
    ⟨[], []⟩
  have enough : table.keys.length < table.rows.length + 1 := by omega
  have distinct : table.keys.Nodup := table.distinct
  have searched := DepthFirst.search_spec table.dependenciesOf cycleError distinct
    (fun first second edge => ⟨mem_keys_of_dependency edge, registered first second edge⟩) enough
  have sorted : table.toposort = (table.keys.foldlM (table.visit (table.rows.length + 1))
      (toTopo ⟨[], []⟩)).map Toposort.ordered := by
    unfold toposort
    change (table.keys.foldlM (table.visit (table.rows.length + 1)) (toTopo ⟨[], []⟩) >>= _) = _
    cases table.keys.foldlM (table.visit (table.rows.length + 1)) (toTopo ⟨[], []⟩) with
    | error exc => rfl
    | ok final => rfl
  rw [sorted, image]
  rcases searched with ⟨path, stageId, raised, round⟩ | ⟨order, returned, perm, ordered, acyclic⟩
  · rw [raised]
    exact .inl ⟨_, rfl, stageId, round⟩
  · rw [returned]
    exact .inr ⟨order, rfl, perm, ordered, acyclic⟩

end DependencyTable

namespace PipelineRegistry

variable {ω ν : Type} (registry : PipelineRegistry ω ν)

/-- The first stage is registered and names the second as a dependency. -/
def Depends (first second : StageId) : Prop :=
  ∃ stage ∈ registry.rows, stage.id = first ∧ second ∈ stage.dependencies

theorem keys_dependencyTable : registry.dependencyTable.keys = registry.rows.map PipelineStage.id :=
  List.map_map

theorem mem_dependenciesOf (first second : StageId) :
    second ∈ registry.dependencyTable.dependenciesOf first ↔ registry.Depends first second := by
  rw [DependencyTable.dependenciesOf, Pipeline.find?_dependencyTable]
  constructor
  · intro edge
    cases found : registry.find? first with
    | none =>
        rw [found] at edge
        cases edge
    | some stage =>
        rw [found] at edge
        exact ⟨stage, Keyed.mem_of_find? found, Keyed.key_of_find? found, edge⟩
  · rintro ⟨stage, inside, rfl, needed⟩
    rw [registry.find?_of_mem inside]
    exact needed

theorem checkMissing_iff :
    registry.dependencyTable.checkMissing = .ok () ↔
      ∀ stage ∈ registry.rows, ∀ dependency ∈ stage.dependencies,
        registry.contains dependency = true := by
  have present (dependency : StageId) : registry.dependencyTable.contains dependency =
      registry.contains dependency := by
    rw [Keyed.contains, Pipeline.find?_dependencyTable, Option.isSome_map]
    rfl
  rw [DependencyTable.checkMissing_ok_iff]
  simp only [present]
  exact List.forall_mem_map

end PipelineRegistry

/-- The order lists every registered stage once and after its dependencies, or it is refused:
exactly where a dependency is not registered or stages depend on each other in a circle. -/
theorem topological_order_exact {ω ν : Type} (registry : PipelineRegistry ω ν) :
    (∀ fuel, registry.rows.length < fuel →
      registry.dependencyTable.keys.foldlM (registry.dependencyTable.visit fuel) ⟨[], [], []⟩ =
        registry.dependencyTable.keys.foldlM
          (registry.dependencyTable.visit (registry.rows.length + 1)) ⟨[], [], []⟩) ∧
    ((∃ order, registry.topologicalOrder = .ok order ∧
        order.Perm (registry.rows.map PipelineStage.id) ∧
        ∀ stage ∈ registry.rows, ∀ dependency ∈ stage.dependencies,
          order.idxOf dependency < order.idxOf stage.id) ∨
      ∃ message, registry.topologicalOrder = .error (.stageDependency message)) ∧
    ((∃ exc, registry.topologicalOrder = .error exc) ↔
      (∃ stage ∈ registry.rows, ∃ dependency ∈ stage.dependencies,
        registry.contains dependency = false) ∨
      ∃ stageId, TransGen registry.Depends stageId stageId) := by
  have length : registry.dependencyTable.rows.length = registry.rows.length := List.length_map _
  have edge : (fun first second => second ∈ registry.dependencyTable.dependenciesOf first) =
      registry.Depends :=
    funext (fun first => funext (fun second => propext (registry.mem_dependenciesOf first second)))
  have missing : ¬ registry.dependencyTable.Registered ↔
      ∃ stage ∈ registry.rows, ∃ dependency ∈ stage.dependencies,
        registry.contains dependency = false := by
    rw [← DependencyTable.checkMissing_iff, registry.checkMissing_iff]
    simp only [not_forall, Bool.not_eq_true, exists_prop]
  refine ⟨?_, ?_⟩
  · intro fuel enough
    obtain ⟨extra, rfl⟩ := Nat.exists_eq_add_of_le enough
    rw [← length]
    exact registry.dependencyTable.visits_fuel extra
  · rw [PipelineRegistry.topologicalOrder]
    cases checked : registry.dependencyTable.checkMissing with
    | error exc =>
        obtain ⟨message, rfl⟩ := DependencyTable.checkMissing_error checked
        have unregistered : ¬ registry.dependencyTable.Registered := by
          rw [← DependencyTable.checkMissing_iff, checked]
          intro same
          cases same
        exact ⟨.inr ⟨message, rfl⟩, fun _ => .inl (missing.mp unregistered), fun _ => ⟨_, rfl⟩⟩
    | ok _ =>
        have registered := DependencyTable.checkMissing_iff.mp checked
        have present := mt missing.mpr (not_not.mpr registered)
        change ((∃ order, registry.dependencyTable.toposort = .ok order ∧ _) ∨
          ∃ message, registry.dependencyTable.toposort = _) ∧
          ((∃ exc, registry.dependencyTable.toposort = _) ↔ _)
        rcases DependencyTable.toposort_cases registered with
          ⟨message, raised, round⟩ | ⟨order, sorted, perm, ordered, acyclic⟩
        · rw [edge] at round
          exact ⟨.inr ⟨message, raised⟩, fun _ => .inr round, fun _ => ⟨_, raised⟩⟩
        · rw [edge] at acyclic
          rw [registry.keys_dependencyTable] at perm
          refine ⟨.inl ⟨order, sorted, perm, fun stage inside dependency needed => ?_⟩, ?_, ?_⟩
          · have listed := perm.mem_iff.mpr (List.mem_map_of_mem inside)
            obtain ⟨front, back, rfl⟩ := List.append_of_mem listed
            refine idxOf_lt_of_front (perm.nodup_iff.mpr registry.distinct) ?_
            exact ordered front stage.id back rfl dependency
              ((registry.mem_dependenciesOf _ _).mpr ⟨stage, inside, rfl, needed⟩)
          · rintro ⟨exc, raised⟩
            rw [sorted] at raised
            cases raised
          · rintro (unregistered | ⟨stageId, round⟩)
            · exact absurd unregistered present
            · exact absurd round (acyclic stageId)

end LexMind.Pipelines
