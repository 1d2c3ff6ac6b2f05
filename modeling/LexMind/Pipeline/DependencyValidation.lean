import LexMind.Pipeline.Stage

set_option autoImplicit false

namespace LexMind.Pipelines

open Lib

namespace DependencyTable

variable (table : DependencyTable)

theorem checkMissing_ok_iff :
    table.checkMissing = .ok () ↔
      ∀ row ∈ table.rows, ∀ dependency ∈ row.2, table.contains dependency = true := by
  rw [checkMissing, forM_ok_iff]
  refine forall₂_congr (fun row _ => ?_)
  rw [forM_ok_iff]
  refine forall₂_congr (fun dependency _ => ?_)
  cases table.contains dependency with
  | true => simp
  | false => simp

/-- The stages under visit are registered and pairwise distinct. -/
structure UnderVisit (visiting : List StageId) : Prop where
  distinct : visiting.Nodup
  registered : visiting ⊆ table.rows.map Prod.fst

variable {table}

theorem UnderVisit.cons {visiting : List StageId} (under : table.UnderVisit visiting)
    {stageId : StageId} {row : StageId × List StageId} (fresh : stageId ∉ visiting)
    (found : table.find? stageId = some row) : table.UnderVisit (stageId :: visiting) := by
  refine ⟨List.nodup_cons.mpr ⟨fresh, under.distinct⟩, ?_⟩
  have inside := List.mem_map_of_mem (f := Prod.fst) (Keyed.mem_of_find? found)
  rw [Keyed.key_of_find? found] at inside
  exact List.cons_subset.mpr ⟨inside, under.registered⟩

theorem UnderVisit.length_le {visiting : List StageId} (under : table.UnderVisit visiting) :
    visiting.length ≤ table.rows.length := by
  simpa using (under.distinct.subperm under.registered).length_le

/-- A visit that returns leaves the stages under visit as they were, and fuel for one
visit of each stage outside them is all it uses. -/
theorem visit_spec (fuel : Nat) (topo : Toposort) (stageId : StageId)
    (under : table.UnderVisit topo.visiting)
    (enough : table.rows.length + 1 ≤ fuel + topo.visiting.length) :
    (∀ next, table.visit fuel topo stageId = .ok next → next.visiting = topo.visiting) ∧
      table.visit (fuel + 1) topo stageId = table.visit fuel topo stageId := by
  induction fuel generalizing topo stageId with
  | zero =>
      have bound := under.length_le
      omega
  | succ fuel ih =>
      rw [visit, visit]
      split
      · exact ⟨fun next returned => by cases returned; rfl, rfl⟩
      split
      · exact ⟨fun next raised => (nomatch raised), rfl⟩
      rename_i fresh
      split
      · exact ⟨fun next raised => (nomatch raised), rfl⟩
      rename_i row found
      have inner := under.cons fresh found
      have step (state : Toposort) (dependency : StageId)
          (same : state.visiting = stageId :: topo.visiting) :=
        ih state dependency (same ▸ inner) (by rw [same, List.length_cons]; omega)
      have keeps (state : Toposort) (dependency : StageId) (next : Toposort)
          (same : state.visiting = stageId :: topo.visiting)
          (returned : table.visit fuel state dependency = .ok next) :
          next.visiting = stageId :: topo.visiting :=
        ((step state dependency same).1 next returned).trans same
      constructor
      · intro next returned
        cases visits : row.2.foldlM (table.visit fuel)
            { topo with visiting := stageId :: topo.visiting } with
        | error exc =>
            rw [visits] at returned
            cases returned
        | ok last =>
            rw [visits] at returned
            cases returned
            have restored := foldlM_invariant keeps rfl visits
            simp only [restored, List.erase_cons_head]
      · rw [foldlM_congr keeps row.2 (fun dependency _ state same => (step state dependency same).2)
          rfl]

end DependencyTable

namespace Pipeline

variable {ω ν : Type} {pipeline : Pipeline ω ν}

theorem find?_dependencyTable (registry : PipelineRegistry ω ν) (stageId : StageId) :
    registry.dependencyTable.find? stageId =
      (registry.find? stageId).map (fun stage => (stage.id, stage.dependencies)) := by
  exact List.find?_map

theorem registered_of_validate (valid : pipeline.validate = .ok ()) {stage : PipelineStage ω ν}
    (inside : stage ∈ pipeline.registry.rows) {dependency : StageId}
    (needed : dependency ∈ stage.dependencies) :
    pipeline.registry.contains dependency = true := by
  have checked : pipeline.registry.dependencyTable.checkMissing = .ok () := by
    unfold validate DependencyTable.validate at valid
    cases missing : pipeline.registry.dependencyTable.checkMissing with
    | ok _ => rfl
    | error exc =>
        rw [missing] at valid
        cases valid
  have present := (DependencyTable.checkMissing_ok_iff _).mp checked
    (stage.id, stage.dependencies) (List.mem_map_of_mem inside) dependency needed
  rwa [Keyed.contains, find?_dependencyTable, Option.isSome_map] at present

end Pipeline

end LexMind.Pipelines
