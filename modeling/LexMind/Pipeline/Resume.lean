import LexMind.Pipeline.SharedStages

set_option autoImplicit false

namespace LexMind.Pipelines

open Lib

variable {ν : Type}

section SharedRuns

variable {completed : List StageId} {shared : Shared ν}

def SharedRun.done (result : SharedRun ν) : List StageId := result.successes.map Prod.fst

theorem runShared_append (front back : List (SharedStage ν)) :
    runShared completed (front ++ back) shared =
      if (runShared completed front shared).passed then
        let later := runShared completed back (runShared completed front shared).shared
        { later with
          successes := (runShared completed front shared).successes ++ later.successes }
      else runShared completed front shared := by
  induction front generalizing shared with
  | nil => rfl
  | cons stage rest ih =>
      rw [List.cons_append, runShared, runShared]
      split
      · exact ih
      · split
        · rw [ih]
          dsimp only
          split
          · rfl
          · rfl
        · rfl

/-- Only which of its stages are completed matters to a run. -/
theorem runShared_congr {other : List StageId} {stages : List (SharedStage ν)}
    (same : ∀ stage ∈ stages, stage.id ∈ completed ↔ stage.id ∈ other) :
    runShared completed stages shared = runShared other stages shared := by
  induction stages generalizing shared with
  | nil => rfl
  | cons stage rest ih =>
      have later (shared : Shared ν) :
          runShared completed rest shared = runShared other rest shared :=
        ih (fun stage inside => same stage (List.mem_cons_of_mem _ inside))
      simp only [runShared, same stage List.mem_cons_self, later]

/-- Stages that are completed or not valid are passed over. -/
theorem runShared_skip {front : List (SharedStage ν)} (back : List (SharedStage ν))
    (skipped : ∀ stage ∈ front, stage.id ∈ completed ∨ stage.validate shared = false) :
    runShared completed (front ++ back) shared = runShared completed back shared := by
  induction front with
  | nil => rfl
  | cons stage rest ih =>
      rw [List.cons_append, runShared, if_pos (skipped stage List.mem_cons_self)]
      exact ih (fun stage inside => skipped stage (List.mem_cons_of_mem _ inside))

/-- A run that passed leaves the shared state of its last checkpoint, or stored none and
changed nothing. -/
theorem runShared_checkpoint {stages : List (SharedStage ν)}
    (passed : (runShared completed stages shared).passed = true) :
    (runShared completed stages shared).successes = [] ∧
        (runShared completed stages shared).shared = shared ∨
      (runShared completed stages shared).successes ≠ [] ∧ ∀ checkpoint : Checkpoint ν,
        (checkpoint.advance (runShared completed stages shared).successes).shared =
          (runShared completed stages shared).shared := by
  induction stages generalizing shared with
  | nil => exact .inl ⟨rfl, rfl⟩
  | cons stage rest ih =>
      rw [runShared] at passed ⊢
      split at passed
      · rename_i skipped
        rw [if_pos skipped]
        exact ih passed
      · rename_i runs
        rw [if_neg runs]
        split at passed
        · rename_i success
          rw [if_pos success]
          refine .inr ⟨List.cons_ne_nil _ _, fun checkpoint => ?_⟩
          rcases ih passed with ⟨none, unchanged⟩ | ⟨_, latest⟩
          · dsimp only
            rw [none, unchanged]
            rfl
          · exact latest (checkpoint.withStage stage.id (stage.outcome shared).2)
        · cases passed

theorem mem_advance (checkpoint : Checkpoint ν) (successes : List (StageId × Shared ν))
    (stage : StageId) :
    stage ∈ (checkpoint.advance successes).completedStages ↔
      stage ∈ checkpoint.completedStages ∨ stage ∈ successes.map Prod.fst := by
  induction successes generalizing checkpoint with
  | nil => simp [Checkpoint.advance]
  | cons success rest ih =>
      have later := ih (checkpoint.withStage success.1 success.2)
      rw [Checkpoint.mem_withStage] at later
      rw [List.map_cons, List.mem_cons, ← or_assoc]
      exact later

theorem mem_of_done {stages : List (SharedStage ν)} {stageId : StageId}
    (inside : stageId ∈ (runShared completed stages shared).done) :
    ∃ stage ∈ stages, stage.id = stageId := by
  induction stages generalizing shared with
  | nil => cases inside
  | cons stage rest ih =>
      have later {shared : Shared ν} (inside : stageId ∈ (runShared completed rest shared).done) :
          ∃ other ∈ stage :: rest, other.id = stageId := by
        obtain ⟨other, member, same⟩ := ih inside
        exact ⟨other, List.mem_cons_of_mem _ member, same⟩
      rw [runShared] at inside
      split at inside
      · exact later inside
      · split at inside
        · rcases List.mem_cons.mp inside with same | inside
          · exact ⟨stage, List.mem_cons_self, same.symm⟩
          · exact later inside
        · cases inside

/-- Where the stage after some others is the only success, those others did not run. -/
theorem skipped_of_single {front : List (SharedStage ν)} {cut : SharedStage ν}
    (apart : ∀ stage ∈ front, stage.id ≠ cut.id)
    (single : (runShared completed (front ++ [cut]) shared).done = [cut.id]) :
    ∀ stage ∈ front, stage.id ∈ completed ∨ stage.validate shared = false := by
  induction front generalizing shared with
  | nil => exact fun _ inside => absurd inside List.not_mem_nil
  | cons stage rest ih =>
      rw [List.cons_append, runShared] at single
      split at single
      · rename_i skipped
        have later := ih (fun stage inside => apart stage (List.mem_cons_of_mem _ inside)) single
        exact List.forall_mem_cons.mpr ⟨skipped, later⟩
      · split at single
        · have first := (List.cons.inj single).1
          exact absurd first (apart stage List.mem_cons_self)
        · cases single

end SharedRuns

theorem union_eq_left_iff (first second : Shared ν) :
    first ∪ second = first ↔ ∀ key ∈ second, key ∈ first := by
  constructor
  · intro same key inside
    rw [← same]
    exact Finmap.mem_union.mpr (.inr inside)
  · intro kept
    apply Finmap.ext_lookup
    intro key
    by_cases inside : key ∈ first
    · exact Finmap.lookup_union_left inside
    · rw [Finmap.lookup_union_right inside, Finmap.lookup_eq_none.mpr inside]
      exact Finmap.lookup_eq_none.mpr (fun present => inside (kept key present))

/-- How a run has ended: completed, or stopped before that, or raised. -/
def completes (ended : Except PyExc PipelineResult × Execution Unit ν) : Option Bool :=
  match ended.1 with
  | .ok result => some result.completed
  | .error _ => none

def contextOf (pipelineId documentId : String) (shared : Shared ν) : PipelineContext Unit ν :=
  ⟨pipelineId, documentId, false, none, .empty, shared, ()⟩

namespace SharedRegistry

section Definitions

variable (registry : SharedRegistry ν) (pipelineId documentId : String) (order : List StageId)
  (initial : Shared ν)

/-- A first run of the listed stages. -/
def firstRun (store : CheckpointStore ν) : Except PyExc PipelineResult × Execution Unit ν :=
  registry.execute order false (contextOf pipelineId documentId initial) store

/-- A run of the listed stages resumed in a new context with the same shared state. -/
def resumedRun (store : CheckpointStore ν) : Except PyExc PipelineResult × Execution Unit ν :=
  registry.execute order true (contextOf pipelineId documentId initial) store

/-- The shared state the listed stages leave where they run alone. -/
def reached : Shared ν :=
  (registry.firstRun pipelineId documentId order initial .empty).2.context.shared

/-- The stages among the listed ones that succeed where they run alone. -/
def done : List StageId :=
  successes (registry.firstRun pipelineId documentId order initial .empty).2.events

/-- The stage is registered. The stages listed before it complete, and it then fails and
leaves the shared state as it found it. -/
structure FailsAt (cut : SharedStage ν) : Prop where
  present : registry.find? cut.id = some cut
  reaches : completes (registry.firstRun pipelineId documentId order initial .empty) = some true
  fails : completes (registry.firstRun pipelineId documentId [cut.id]
    (registry.reached pipelineId documentId order initial) .empty) = some false
  unchanged : registry.reached pipelineId documentId [cut.id]
    (registry.reached pipelineId documentId order initial) =
      registry.reached pipelineId documentId order initial

/-- The same stages, where one of them has another `execute`. -/
def repaired (cut : SharedStage ν) (execute : Py (Shared ν) StageResult) : SharedRegistry ν :=
  registry.put { cut with execute := execute }

/-- A run that fails and the run resumed from it leave the shared state, and between them
execute with success the stages, of one run without the failure. -/
def ResumeEquivalent (working : SharedRegistry ν) (store : CheckpointStore ν) : Prop :=
  let first := registry.firstRun pipelineId documentId order initial store
  let second := working.resumedRun pipelineId documentId order initial first.2.store
  let whole := working.firstRun pipelineId documentId order initial store
  second.2.context.shared = whole.2.context.shared ∧
    successes first.2.events ++ successes second.2.events = successes whole.2.events

end Definitions

variable {registry : SharedRegistry ν} {pipelineId documentId : String} {front : List StageId}
  {initial : Shared ν} {cut : SharedStage ν} {store : CheckpointStore ν}

theorem firstRun_spec (pipelineId documentId : String) (initial : Shared ν)
    (valid : registry.toRegistry.dependencyTable.validate = .ok ()) (order : List StageId)
    (store : CheckpointStore ν) :
    let result := runShared [] (registry.stages order) initial
    let ended := registry.firstRun pipelineId documentId order initial store
    completes ended = some result.passed ∧ ended.2.context.shared = result.shared ∧
      successes ended.2.events = result.done ∧
      ended.2.store.restore pipelineId =
        if result.successes = [] then store.restore pipelineId
        else some (Checkpoint.advance ⟨pipelineId, documentId, [], none, ∅⟩ result.successes) := by
  obtain ⟨last, ended, shared, succeeded, stored⟩ := execute_spec
    (contextOf pipelineId documentId initial) valid rfl order false store
  refine ⟨?_, ?_, ?_, ?_⟩
  · rw [firstRun, ended]
    rfl
  · rw [firstRun, ended]
    exact shared
  · rw [firstRun, ended]
    exact succeeded
  · rw [firstRun, ended]
    exact stored

theorem stages_cons {stageId : StageId} {stage : SharedStage ν}
    (found : registry.find? stageId = some stage) (rest : List StageId) :
    registry.stages (stageId :: rest) = stage :: registry.stages rest :=
  List.filterMap_cons_some found

theorem stages_append (rest : List StageId) :
    registry.stages (front ++ rest) = registry.stages front ++ registry.stages rest :=
  List.filterMap_append

theorem id_of_mem_stages {order : List StageId} {stage : SharedStage ν}
    (inside : stage ∈ registry.stages order) : stage.id ∈ order := by
  obtain ⟨stageId, listed, found⟩ := List.mem_filterMap.mp inside
  rwa [Keyed.key_of_find? found]

theorem apart_of_nodup {back : List StageId} (distinct : (front ++ back).Nodup)
    {stage : SharedStage ν} (before : stage ∈ registry.stages front) {stageId : StageId}
    (after : stageId ∈ back) : stage.id ≠ stageId :=
  (List.nodup_append.mp distinct).2.2 _ (id_of_mem_stages before) _ after

theorem find?_repaired (execute : Py (Shared ν) StageResult) :
    (registry.repaired cut execute).find? cut.id = some { cut with execute := execute } :=
  Keyed.find?_put_self registry { cut with execute := execute }

theorem stages_repaired {order : List StageId} (absent : cut.id ∉ order)
    (execute : Py (Shared ν) StageResult) :
    (registry.repaired cut execute).stages order = registry.stages order := by
  apply List.filterMap_congr
  intro stageId listed
  refine Keyed.find?_put_of_ne registry { cut with execute := execute } ?_
  exact fun same => absent (same ▸ listed)

/-- The dependencies of a repaired stage are the same, and so is what is checked of them. -/
theorem dependencyTable_repaired (present : registry.find? cut.id = some cut)
    (execute : Py (Shared ν) StageResult) :
    (registry.repaired cut execute).toRegistry.dependencyTable =
      registry.toRegistry.dependencyTable := by
  apply Keyed.ext_rows
  change ((Keyed.putRows SharedStage.id registry.rows _).map _).map _ =
    (registry.rows.map _).map _
  rw [Keyed.putRows, if_pos (List.mem_map_of_mem (Keyed.mem_of_find? present)), List.map_map,
    List.map_map, List.map_map]
  apply List.map_congr_left
  intro stage inside
  simp only [Function.comp_apply]
  split
  · rename_i same
    rw [registry.eq_of_key_eq inside (Keyed.mem_of_find? present) same]
    rfl
  · rfl

theorem runShared_single (stage : SharedStage ν) (shared : Shared ν) :
    runShared [] [stage] shared =
      if stage.validate shared = false then ⟨true, shared, []⟩
      else ⟨(stage.outcome shared).1, (stage.outcome shared).2,
        if (stage.outcome shared).1 then [(stage.id, (stage.outcome shared).2)] else []⟩ := by
  simp only [runShared, List.not_mem_nil, false_or]
  split
  · rfl
  · split
    · rename_i success
      rw [success]
    · rename_i failure
      rw [Bool.not_eq_true] at failure
      rw [failure]

/-- What fails is the stage at the cut, from the shared state the stages before it leave. -/
theorem FailsAt.spec (valid : registry.toRegistry.dependencyTable.validate = .ok ())
    (failed : registry.FailsAt pipelineId documentId front initial cut) :
    let before := runShared [] (registry.stages front) initial
    before.passed = true ∧ before.shared = registry.reached pipelineId documentId front initial ∧
      before.done = registry.done pipelineId documentId front initial ∧
      cut.validate before.shared = true ∧ cut.outcome before.shared = (false, before.shared) := by
  intro before
  obtain ⟨ended, shared, succeeded, _⟩ := firstRun_spec
    pipelineId documentId initial valid front .empty
  have state : before.shared = registry.reached pipelineId documentId front initial := shared.symm
  have passed : before.passed = true := Option.some.inj (ended.symm.trans failed.reaches)
  obtain ⟨ended', shared', _, _⟩ := firstRun_spec
    pipelineId documentId before.shared valid [cut.id] .empty
  rw [stages_cons failed.present, stages, List.filterMap_nil, runShared_single] at ended' shared'
  have fails := failed.fails
  have unchanged := failed.unchanged
  rw [← state] at fails unchanged
  rw [fails] at ended'
  have left := unchanged.symm.trans shared'
  refine ⟨passed, state, succeeded.symm, ?_⟩
  split at ended'
  · cases ended'
  · rename_i called
    rw [if_neg called] at left
    exact ⟨by simpa using called, Prod.ext (Option.some.inj ended').symm left.symm⟩

/-- A first run that fails has done what the stages before the cut do alone. -/
theorem runShared_failing (valid : registry.toRegistry.dependencyTable.validate = .ok ())
    (failed : registry.FailsAt pipelineId documentId front initial cut)
    (back : List StageId) :
    let before := runShared [] (registry.stages front) initial
    runShared [] (registry.stages (front ++ cut.id :: back)) initial =
      ⟨false, before.shared, before.successes⟩ := by
  intro before
  obtain ⟨passed, _, _, called, fails⟩ := failed.spec valid
  rw [stages_append, stages_cons failed.present, runShared_append, if_pos passed, runShared,
    if_neg (by simp [called]), fails]
  simp [before]

/-- The run resumed from there starts with the keys of the initial shared state added to
what the cut was reached with. -/
theorem resumedRun_spec (valid : registry.toRegistry.dependencyTable.validate = .ok ())
    (fresh : store.restore pipelineId = none)
    (failed : registry.FailsAt pipelineId documentId front initial cut) (back : List StageId)
    {working : SharedRegistry ν}
    (sound : working.toRegistry.dependencyTable.validate = .ok ()) (order : List StageId) :
    let first := registry.firstRun pipelineId documentId (front ++ cut.id :: back) initial store
    let second := working.resumedRun pipelineId documentId order initial first.2.store
    let result := runShared (registry.done pipelineId documentId front initial)
      (working.stages order) (registry.reached pipelineId documentId front initial ∪ initial)
    second.2.context.shared = result.shared ∧ successes second.2.events = result.done := by
  intro first second result
  obtain ⟨passed, state, done, _⟩ := failed.spec valid
  obtain ⟨_, _, _, stored⟩ := firstRun_spec
    pipelineId documentId initial valid (front ++ cut.id :: back) store
  rw [runShared_failing valid failed back, fresh] at stored
  let context := contextOf pipelineId documentId initial
  have start : startShared context first.2.store true =
        registry.reached pipelineId documentId front initial ∪ initial ∧
      ∀ stage, stage ∈ (startCheckpoint context first.2.store true).completedStages ↔
        stage ∈ registry.done pipelineId documentId front initial := by
    rw [← state, ← done]
    have existing : existingCheckpoint first.2.store context.pipelineId true =
      first.2.store.restore pipelineId := rfl
    rw [startShared, startCheckpoint, existing, stored]
    rcases runShared_checkpoint passed with ⟨none, unchanged⟩ | ⟨some, latest⟩
    · rw [none, unchanged, SharedRun.done, none]
      exact ⟨((union_eq_left_iff initial initial).mpr (fun _ inside => inside)).symm,
        fun stage => Iff.rfl⟩
    · rw [if_neg some]
      refine ⟨congrArg (· ∪ initial) (latest _), fun stage => ?_⟩
      exact (mem_advance _ _ stage).trans (by simp [SharedRun.done])
  obtain ⟨last, ended, shared, succeeded, _⟩ :=
    execute_spec context sound rfl order true first.2.store
  have same : runShared (startCheckpoint context first.2.store true).completedStages
      (working.stages order) (startShared context first.2.store true) = result := by
    rw [start.1]
    exact runShared_congr (fun stage _ => start.2 stage.id)
  rw [same] at shared succeeded
  constructor
  · exact (congrArg (fun ended => ended.2.context.shared) ended).trans shared
  · exact (congrArg (fun ended => successes ended.2.events) ended).trans succeeded

/-- Equivalence, over the shared state. -/
theorem resumeEquivalent_iff (valid : registry.toRegistry.dependencyTable.validate = .ok ())
    (fresh : store.restore pipelineId = none)
    (failed : registry.FailsAt pipelineId documentId front initial cut) (back : List StageId)
    {working : SharedRegistry ν}
    (sound : working.toRegistry.dependencyTable.validate = .ok ()) :
    let stages := working.stages (front ++ cut.id :: back)
    let done := registry.done pipelineId documentId front initial
    let second := runShared done stages
      (registry.reached pipelineId documentId front initial ∪ initial)
    let whole := runShared [] stages initial
    registry.ResumeEquivalent pipelineId documentId (front ++ cut.id :: back) initial working
        store ↔
      second.shared = whole.shared ∧ done ++ second.done = whole.done := by
  intro stages done second whole
  obtain ⟨_, _, succeeded, _⟩ := firstRun_spec
    pipelineId documentId initial valid (front ++ cut.id :: back) store
  obtain ⟨_, shared', succeeded', _⟩ := firstRun_spec
    pipelineId documentId initial sound (front ++ cut.id :: back) store
  obtain ⟨shared'', succeeded''⟩ :=
    resumedRun_spec valid fresh failed back sound (front ++ cut.id :: back)
  rw [runShared_failing valid failed back] at succeeded
  have before : successes (registry.firstRun pipelineId documentId (front ++ cut.id :: back)
      initial store).2.events = done := succeeded.trans (failed.spec valid).2.2.1
  rw [ResumeEquivalent]
  simp only [before, shared', succeeded', shared'', succeeded'']
  rfl

theorem stages_repaired_order {back : List StageId} (distinct : (front ++ cut.id :: back).Nodup)
    (execute : Py (Shared ν) StageResult) :
    (registry.repaired cut execute).stages (front ++ cut.id :: back) =
      registry.stages front ++ { cut with execute := execute } :: registry.stages back := by
  have apart := List.nodup_middle.mp distinct
  have absent := (List.nodup_cons.mp apart).1
  rw [List.mem_append, not_or] at absent
  rw [stages_append, stages_cons (find?_repaired execute), stages_repaired absent.1,
    stages_repaired absent.2]

/-- A stage that succeeds and changes nothing. -/
def succeeding (stageId : StageId) : Py (Shared ν) StageResult := pure (StageResult.ok stageId)

theorem outcome_succeeding (stage : SharedStage ν) (shared : Shared ν) :
    ({ stage with execute := succeeding stage.id } : SharedStage ν).outcome shared =
      (true, shared) := rfl

/-- A run over `front` that skips what is done or not valid, and goes on from there, does
what the uninterrupted run does after `front`. -/
theorem runShared_resumed {front back : List (SharedStage ν)} {initial : Shared ν}
    (passed : (runShared [] front initial).passed = true)
    (stay : ∀ stage ∈ front, stage.id ∈ (runShared [] front initial).done ∨
      stage.validate (runShared [] front initial).shared = false)
    (apart : ∀ stage ∈ back, ∀ other ∈ front, stage.id ≠ other.id) :
    let second := runShared (runShared [] front initial).done (front ++ back)
      (runShared [] front initial).shared
    let whole := runShared [] (front ++ back) initial
    second.shared = whole.shared ∧
      (runShared [] front initial).done ++ second.done = whole.done := by
  intro second whole
  have same : runShared (runShared [] front initial).done back (runShared [] front initial).shared
      = runShared [] back (runShared [] front initial).shared := by
    refine runShared_congr (fun stage inside => ⟨fun done => ?_, fun none => ?_⟩)
    · obtain ⟨other, member, equal⟩ := mem_of_done done
      exact absurd equal.symm (apart stage inside other member)
    · cases none
  have resumed : second = runShared [] back (runShared [] front initial).shared := by
    rw [← same]
    exact runShared_skip back stay
  rw [resumed]
  simp only [whole, runShared_append, passed, if_true, SharedRun.done, List.map_append, and_self]

/-- Where a stage that succeeds and changes nothing makes a resumed run equivalent, the
run has started with the shared state of the cut, where all it did not skip is not valid. -/
theorem of_runShared_resumed {front : List (SharedStage ν)} {cut : SharedStage ν}
    {completed : List StageId} {start : Shared ν}
    (succeeds : ∀ shared, cut.outcome shared = (true, shared))
    (apart : ∀ stage ∈ front, stage.id ≠ cut.id)
    (single : (runShared completed (front ++ [cut]) start).done = [cut.id]) :
    (runShared completed (front ++ [cut]) start).shared = start ∧
      ∀ stage ∈ front, stage.id ∈ completed ∨ stage.validate start = false := by
  have skipped := skipped_of_single apart single
  refine ⟨?_, skipped⟩
  rw [runShared_skip [cut] skipped, runShared, succeeds]
  split
  · rfl
  · rfl

/-- The resumed run is equivalent, whatever the repaired stage does and whatever follows
it, exactly when no initial key is gone where the cut is reached and no stage that was
skipped before it is valid there. -/
theorem resume_equivalent_iff (valid : registry.toRegistry.dependencyTable.validate = .ok ())
    (fresh : store.restore pipelineId = none) (distinct : (front ++ [cut.id]).Nodup)
    (failed : registry.FailsAt pipelineId documentId front initial cut) :
    (∀ execute back, (front ++ cut.id :: back).Nodup →
      completes ((registry.repaired cut execute).firstRun pipelineId documentId [cut.id]
        (registry.reached pipelineId documentId front initial) .empty) = some true →
      registry.ResumeEquivalent pipelineId documentId (front ++ cut.id :: back) initial
        (registry.repaired cut execute) store) ↔
    (∀ key ∈ initial, key ∈ registry.reached pipelineId documentId front initial) ∧
      ∀ stage ∈ registry.stages front,
        stage.id ∉ registry.done pipelineId documentId front initial →
        stage.validate (registry.reached pipelineId documentId front initial) = false := by
  obtain ⟨passed, state, done, called, _⟩ := failed.spec valid
  have sound (execute : Py (Shared ν) StageResult) :
      (registry.repaired cut execute).toRegistry.dependencyTable.validate = .ok () := by
    rw [dependencyTable_repaired failed.present]
    exact valid
  have compare (execute : Py (Shared ν) StageResult) (back : List StageId)
      (distinct : (front ++ cut.id :: back).Nodup) :=
    (stages_repaired_order distinct execute : (registry.repaired cut execute).stages _ = _) ▸
      resumeEquivalent_iff valid fresh failed back (sound execute)
  rw [← state, ← done] at compare ⊢
  rw [← union_eq_left_iff]
  constructor
  · intro equivalent
    have repaired := equivalent (succeeding cut.id) [] distinct (by
      rw [(firstRun_spec _ _ _ (sound _) [cut.id] .empty).1, stages_cons (find?_repaired _), stages,
        List.filterMap_nil, runShared_single, outcome_succeeding]
      split
      · rfl
      · rfl)
    obtain ⟨shared, executed⟩ := (compare (succeeding cut.id) [] distinct).mp repaired
    have whole : runShared [] (registry.stages front ++
        [{ cut with execute := succeeding cut.id }]) initial =
          ⟨true, (runShared [] (registry.stages front) initial).shared,
            (runShared [] (registry.stages front) initial).successes ++
              [(cut.id, (runShared [] (registry.stages front) initial).shared)]⟩ := by
      rw [runShared_append, if_pos passed, runShared_single, outcome_succeeding]
      simp [called]
    change (runShared _ (registry.stages front ++ [_]) _).shared = _ at shared
    change _ ++ (runShared _ (registry.stages front ++ [_]) _).done = _ at executed
    rw [show registry.stages [] = [] from rfl, whole] at shared executed
    have single := List.append_cancel_left
      (executed.trans (List.map_append (f := Prod.fst)))
    obtain ⟨start, skipped⟩ := of_runShared_resumed (outcome_succeeding cut)
      (fun stage inside => apart_of_nodup distinct inside List.mem_cons_self) single
    have kept := start.symm.trans shared
    rw [kept] at skipped
    exact ⟨kept, fun stage inside => (skipped stage inside).resolve_left⟩
  · rintro ⟨kept, stay⟩ execute back distinct _
    have resumed := (compare execute back distinct).mpr
    rw [kept] at resumed
    refine resumed (runShared_resumed passed ?_ ?_)
    · exact fun stage inside => or_iff_not_imp_left.mpr (stay stage inside)
    · intro stage inside other member
      rcases List.mem_cons.mp inside with rfl | inside
      · exact (apart_of_nodup distinct member List.mem_cons_self).symm
      · exact (apart_of_nodup distinct member
          (List.mem_cons_of_mem _ (id_of_mem_stages inside))).symm

end SharedRegistry

section Drafts

/-- A stage that deletes the draft. -/
def dropDraft : SharedStage String where
  id := .ocr
  dependencies := []
  retryPolicy := noRetry
  validate := fun _ => true
  execute := do
    modify (fun shared => shared.erase "draft")
    return .ok .ocr
  rollback := pure ()

def failingParser : SharedStage String where
  id := .parser
  dependencies := [.ocr]
  retryPolicy := noRetry
  validate := fun _ => true
  execute := throw (.callable "no text layer")
  rollback := pure ()

def drafts : SharedRegistry String where
  rows := [dropDraft, failingParser]
  distinct := by decide

def draft : Shared String := Finmap.singleton "draft" "v1"

theorem drafts_failsAt : drafts.FailsAt "run" "doc-1" [.ocr] draft failingParser where
  present := rfl
  reaches := by decide +kernel
  fails := by decide +kernel
  unchanged := by decide +kernel

namespace SharedRegistry

theorem resume_equivalent_iff_drafts :
    (∀ execute back, ([StageId.ocr] ++ StageId.parser :: back).Nodup →
      completes ((drafts.repaired failingParser execute).firstRun "run" "doc-1" [.parser]
        (drafts.reached "run" "doc-1" [.ocr] draft) .empty) = some true →
      drafts.ResumeEquivalent "run" "doc-1" ([.ocr] ++ .parser :: back) draft
        (drafts.repaired failingParser execute) .empty) ↔
    (∀ key ∈ draft, key ∈ drafts.reached "run" "doc-1" [.ocr] draft) ∧
      ∀ stage ∈ drafts.stages [.ocr], stage.id ∉ drafts.done "run" "doc-1" [.ocr] draft →
        stage.validate (drafts.reached "run" "doc-1" [.ocr] draft) = false :=
  resume_equivalent_iff (by decide +kernel) rfl (by decide) drafts_failsAt

/-- The resumed run brings the deleted draft back. -/
theorem resume_restores_draft :
    drafts.FailsAt "run" "doc-1" [.ocr] draft failingParser ∧
    completes ((drafts.repaired failingParser (succeeding .parser)).firstRun "run" "doc-1"
      [.parser] (drafts.reached "run" "doc-1" [.ocr] draft) .empty) = some true ∧
    ¬ drafts.ResumeEquivalent "run" "doc-1" [.ocr, .parser] draft
      (drafts.repaired failingParser (succeeding .parser)) .empty := by
  refine ⟨drafts_failsAt, by decide +kernel, ?_⟩
  rintro ⟨same, _⟩
  have lookups := congrArg (Finmap.lookup "draft") same
  revert lookups
  decide +kernel

end SharedRegistry

end Drafts

end LexMind.Pipelines
