import LexMind.Pipeline.Observations

set_option autoImplicit false

namespace LexMind.Pipelines

open Lib

variable {ν α : Type}

/-- A stage whose hooks are functions of the shared state. -/
structure SharedStage (ν : Type) where
  id : StageId
  dependencies : List StageId
  retryPolicy : RetryPolicy
  validate : Shared ν → Bool
  execute : Py (Shared ν) StageResult
  rollback : Py (Shared ν) Unit

def onShared (program : Py (Shared ν) α) : Py (PipelineContext Unit ν) α :=
  onPart PipelineContext.shared (fun context shared => { context with shared := shared }) program

namespace SharedStage

def toStage (stage : SharedStage ν) : PipelineStage Unit ν where
  id := stage.id
  dependencies := stage.dependencies
  retryPolicy := stage.retryPolicy
  validate := do return stage.validate (← get).shared
  execute := onShared stage.execute
  rollback := onShared stage.rollback

@[simp] theorem toStage_id (stage : SharedStage ν) : stage.toStage.id = stage.id := rfl

/-- Whether one of the attempts from one on succeeds, and the shared state they leave. -/
def attempts (stage : SharedStage ν) : Nat → Nat → Shared ν → Bool × Shared ν
  | 0, _, shared => (false, shared)
  | fuel + 1, attempt, shared =>
      let ended := call stage.execute shared
      if succeeded ended.1 then (true, ended.2)
      else if stage.retryPolicy.shouldRetry attempt then attempts stage fuel (attempt + 1) ended.2
      else (false, ended.2)

/-- The attempts, and the rollback where none succeeds. -/
def outcome (stage : SharedStage ν) (shared : Shared ν) : Bool × Shared ν :=
  let ended := stage.attempts (stage.retryPolicy.maxAttempts.toNat + 1) 1 shared
  if ended.1 then ended else (false, (call stage.rollback ended.2).2)

end SharedStage

/-- What a run over a shared state comes to: whether it passed every stage, the state it
leaves, and the stages that succeeded with the state each of them left. -/
structure SharedRun (ν : Type) where
  passed : Bool
  shared : Shared ν
  successes : List (StageId × Shared ν)

def runShared (completed : List StageId) : List (SharedStage ν) → Shared ν → SharedRun ν
  | [], shared => ⟨true, shared, []⟩
  | stage :: rest, shared =>
      if stage.id ∈ completed ∨ stage.validate shared = false then runShared completed rest shared
      else if (stage.outcome shared).1 then
        let later := runShared completed rest (stage.outcome shared).2
        { later with successes := (stage.id, (stage.outcome shared).2) :: later.successes }
      else ⟨false, (stage.outcome shared).2, []⟩

/-- The stages that succeeded, in order. -/
def successes (events : List StageEvent) : List StageId :=
  events.filterMap (fun event => match event with
    | .succeeded stage => some stage
    | _ => none)

section Refinement

/-- Only the shared state, the results and the observed calls may have changed. -/
structure Kept (first last : Execution Unit ν) : Prop where
  cancelled : last.context.cancelled = first.context.cancelled
  pipelineId : last.context.pipelineId = first.context.pipelineId
  store : last.store = first.store
  successes : successes last.events = successes first.events

theorem Kept.refl (execution : Execution Unit ν) : Kept execution execution := ⟨rfl, rfl, rfl, rfl⟩

theorem Kept.trans {first middle last : Execution Unit ν} (before : Kept first middle)
    (after : Kept middle last) : Kept first last :=
  ⟨after.cancelled.trans before.cancelled, after.pipelineId.trans before.pipelineId,
    after.store.trans before.store, after.successes.trans before.successes⟩

/-- The computation returns such a value, leaves such a shared state and keeps the rest. -/
def Yields (program : ExecutionPy Unit ν α) (execution : Execution Unit ν)
    (answer : α → Prop) (shared : Shared ν) : Prop :=
  ∃ value last, call program execution = (.ok value, last) ∧ answer value ∧
    last.context.shared = shared ∧ Kept execution last

variable {execution : Execution Unit ν} {β : Type}

theorem Yields.pure {value : α} {answer : α → Prop} (holds : answer value) :
    Yields (pure value) execution answer execution.context.shared :=
  ⟨value, execution, rfl, holds, rfl, .refl execution⟩

theorem Yields.bind {program : ExecutionPy Unit ν α} {next : α → ExecutionPy Unit ν β}
    {answer : α → Prop} {shared : Shared ν} {final : β → Prop} {left : Shared ν}
    (before : Yields program execution answer shared)
    (after : ∀ value middle, answer value → middle.context.shared = shared →
      Yields (next value) middle final left) :
    Yields (program >>= next) execution final left := by
  obtain ⟨value, middle, called, holds, state, kept⟩ := before
  obtain ⟨result, last, called', holds', state', kept'⟩ := after value middle holds state
  refine ⟨result, last, ?_, holds', state', kept.trans kept'⟩
  rw [call_bind, called, andThen_ok, called']

theorem changeStatistics_yields (change : PipelineStatistics → PipelineStatistics) :
    Yields (changeStatistics change) execution (fun _ => True) execution.context.shared :=
  ⟨⟨⟩, _, rfl, trivial, rfl, rfl, rfl, rfl, rfl⟩

theorem addResult_yields (result : StageResult) :
    Yields (addResult result) execution (fun _ => True) execution.context.shared :=
  ⟨⟨⟩, _, rfl, trivial, rfl, rfl, rfl, rfl, rfl⟩

theorem silent_yields (event : PipelineEvent) :
    Yields (hook (silent event)) execution (fun _ => True) execution.context.shared :=
  ⟨⟨⟩, execution, rfl, trivial, rfl, .refl execution⟩

theorem rollback_yields (stage : SharedStage ν) :
    Yields (rollback stage.toStage) execution (fun _ => True)
      (call stage.rollback execution.context.shared).2 := by
  have undone (context : PipelineContext Unit ν) : call stage.toStage.rollback context =
      ((call stage.rollback context.shared).1,
        { context with shared := (call stage.rollback context.shared).2 }) := call_onPart _ _ _ _
  have called : call (rollback stage.toStage) execution = (.ok ⟨⟩, { execution with
      context := { execution.context with
        shared := (call stage.rollback execution.context.shared).2 } }) := by
    rw [rollback, call_bind, call_attempt, andThen_ok, hook, call_onPart, undone]
    rfl
  exact ⟨_, _, called, trivial, rfl, rfl, rfl, rfl, rfl⟩

theorem call_attemptStage (stage : SharedStage ν) :
    call (attemptStage silent stage.toStage) execution =
      ((call stage.execute execution.context.shared).1,
        { execution with
          context := { execution.context with
            shared := (call stage.execute execution.context.shared).2 }
          events := execution.events ++ [.called stage.id] }) := by
  have executed (context : PipelineContext Unit ν) : call stage.toStage.execute context =
      ((call stage.execute context.shared).1,
        { context with shared := (call stage.execute context.shared).2 }) := call_onPart _ _ _ _
  rw [attemptStage, call_bind, observe, call_modify, andThen_ok, call_bind, hook, call_onPart,
    executed]
  cases (call stage.execute execution.context.shared).1 with
  | error exc => rfl
  | ok result =>
      rw [andThen_ok, call_ite]
      split
      · rfl
      · rfl

theorem attemptStage_yields (stage : SharedStage ν) :
    Yields (attempt (attemptStage silent stage.toStage)) execution
      (fun ended => ended = (call stage.execute execution.context.shared).1)
      (call stage.execute execution.context.shared).2 := by
  have called := call_attempt (attemptStage silent stage.toStage) execution
  rw [call_attemptStage] at called
  exact ⟨_, _, called, rfl, rfl, rfl, rfl, rfl, by simp [successes]⟩

/-- The stage result is the success, and the shared state the one, of such an outcome. -/
def Gives (program : ExecutionPy Unit ν StageResult) (execution : Execution Unit ν)
    (ended : Bool × Shared ν) : Prop :=
  Yields program execution (fun result => result.success = ended.1) ended.2

theorem failAttempt_gives (stage : SharedStage ν) (attempt : Nat) (lastError : String)
    {again : ExecutionPy Unit ν StageResult} {ended : Bool × Shared ν}
    (later : ∀ middle : Execution Unit ν, middle.context.shared = execution.context.shared →
      Gives again middle ended) :
    Gives (failAttempt silent stage.toStage attempt lastError again) execution
      (if stage.retryPolicy.shouldRetry attempt then ended
        else (false, execution.context.shared)) := by
  refine .bind (changeStatistics_yields _) (fun _ first _ shared => ?_)
  refine .bind (silent_yields _) (fun _ second _ shared' => ?_)
  have same := shared'.trans shared
  change Yields (if stage.retryPolicy.shouldRetry attempt = true then _ else _) second _ _
  split
  · refine .bind (changeStatistics_yields _) (fun _ third _ shared'' => ?_)
    exact later third (shared''.trans same)
  · rw [← same]
    exact .pure rfl

theorem judgeAttempt_gives (execution : Execution Unit ν) (stage : SharedStage ν) (attempt : Nat)
    {again : ExecutionPy Unit ν StageResult} {ended : Bool × Shared ν}
    (later : ∀ middle : Execution Unit ν, middle.context.shared = execution.context.shared →
      Gives again middle ended) (answer : Except PyExc StageResult) :
    Gives (judgeAttempt silent stage.toStage attempt again answer) execution
      (if succeeded answer then (true, execution.context.shared)
        else if stage.retryPolicy.shouldRetry attempt then ended
        else (false, execution.context.shared)) := by
  cases answer with
  | error exc => exact failAttempt_gives stage attempt exc.text later
  | ok result =>
      rw [judgeAttempt, succeeded]
      split
      · rename_i success
        exact .pure success
      · exact failAttempt_gives stage attempt _ later

theorem runAttempts_gives (execution : Execution Unit ν) (stage : SharedStage ν)
    (fuel attempt : Nat) :
    Gives (runAttempts silent stage.toStage fuel attempt) execution
      (stage.attempts fuel attempt execution.context.shared) := by
  induction fuel generalizing attempt execution with
  | zero => exact .pure rfl
  | succ fuel ih =>
      refine .bind (silent_yields _) (fun _ first _ shared => ?_)
      refine .bind (attemptStage_yields stage) (fun answer second same shared' => ?_)
      rw [shared] at same shared'
      have judged := judgeAttempt_gives second stage attempt
        (fun middle state => state ▸ ih middle (attempt + 1)) answer
      rw [same, shared'] at judged
      rw [same]
      exact judged

theorem runStage_gives (stage : SharedStage ν) :
    Gives (runStage silent stage.toStage) execution
      (stage.attempts (stage.retryPolicy.maxAttempts.toNat + 1) 1 execution.context.shared) :=
  .bind (changeStatistics_yields _) (fun _ _ _ shared => shared ▸ runAttempts_gives _ stage _ 1)

theorem observe_yields {event : StageEvent} (failure : successes [event] = []) :
    Yields (observe event) execution (fun _ => True) execution.context.shared := by
  refine ⟨⟨⟩, _, rfl, trivial, rfl, rfl, rfl, rfl, ?_⟩
  simp only [successes, List.filterMap_append] at failure ⊢
  rw [failure, List.append_nil]

theorem get_yields :
    Yields get execution (fun found => found = execution) execution.context.shared :=
  ⟨execution, execution, rfl, rfl, rfl, .refl execution⟩

theorem raiseIfCancelled_yields (going : execution.context.cancelled = false) :
    Yields raiseIfCancelled execution (fun _ => True) execution.context.shared := by
  refine ⟨⟨⟩, execution, ?_, trivial, rfl, .refl execution⟩
  rw [call_raiseIfCancelled, going]
  rfl

theorem validate_yields (stage : SharedStage ν) :
    Yields (hook stage.toStage.validate) execution
      (fun valid => valid = stage.validate execution.context.shared) execution.context.shared :=
  ⟨_, execution, rfl, rfl, rfl, .refl execution⟩

/-- The checkpoint after these stages have succeeded one after another. -/
def Checkpoint.advance (checkpoint : Checkpoint ν) (successes : List (StageId × Shared ν)) :
    Checkpoint ν :=
  successes.foldl (fun reached success => reached.withStage success.1 success.2) checkpoint

/-- The execution has done what the run over the shared state does, and has stored the
checkpoints of its successes. -/
structure Ran (program : ExecutionPy Unit ν Bool) (execution : Execution Unit ν)
    (checkpoint : Checkpoint ν) (result : SharedRun ν) (last : Execution Unit ν) : Prop where
  called : call program execution = (.ok result.passed, last)
  shared : last.context.shared = result.shared
  successes : successes last.events =
    successes execution.events ++ result.successes.map Prod.fst
  stored : last.store.restore checkpoint.pipelineId =
    if result.successes = [] then execution.store.restore checkpoint.pipelineId
    else some (checkpoint.advance result.successes)

def Runs (program : ExecutionPy Unit ν Bool) (execution : Execution Unit ν)
    (checkpoint : Checkpoint ν) (result : SharedRun ν) : Prop :=
  ∃ last, Ran program execution checkpoint result last

variable {checkpoint : Checkpoint ν} {result : SharedRun ν}

theorem Runs.pure (passed : Bool) :
    Runs (Pure.pure passed) execution checkpoint ⟨passed, execution.context.shared, []⟩ :=
  ⟨execution, rfl, rfl, by simp, by simp⟩

theorem Runs.bind {program : ExecutionPy Unit ν α} {next : α → ExecutionPy Unit ν Bool}
    {answer : α → Prop} {shared : Shared ν} (before : Yields program execution answer shared)
    (after : ∀ value middle, answer value → middle.context.shared = shared →
      middle.context.cancelled = execution.context.cancelled →
      Runs (next value) middle checkpoint result) :
    Runs (program >>= next) execution checkpoint result := by
  obtain ⟨value, middle, called, holds, state, kept⟩ := before
  obtain ⟨last, ran⟩ := after value middle holds state kept.cancelled
  refine ⟨last, ?_, ran.shared, ?_, ?_⟩
  · rw [call_bind, called, andThen_ok, ran.called]
  · rw [ran.successes, kept.successes]
  · rw [ran.stored, kept.store]

/-- A success, and the run from the checkpoint stored for it. -/
theorem Runs.succeeded {stage : StageId} {next : Execution Unit ν → ExecutionPy Unit ν Bool}
    (after : ∀ found middle : Execution Unit ν,
      found.context.shared = execution.context.shared →
      middle.context.shared = execution.context.shared →
      middle.context.cancelled = execution.context.cancelled →
      Runs (next found) middle (checkpoint.withStage stage execution.context.shared) result) :
    Runs (do
        observe (.succeeded stage)
        let found ← get
        saveCheckpoint (checkpoint.withStage stage found.context.shared)
        next found)
      execution checkpoint
      { result with
        successes := (stage, execution.context.shared) :: result.successes } := by
  let advanced := checkpoint.withStage stage execution.context.shared
  let found := { execution with events := execution.events ++ [StageEvent.succeeded stage] }
  obtain ⟨last, ran⟩ :=
    after found { found with store := execution.store.save advanced } rfl rfl rfl
  refine ⟨last, ?_, ran.shared, ?_, ?_⟩
  · rw [call_bind, observe, call_modify, andThen_ok, call_bind, call_get, andThen_ok, call_bind,
      saveCheckpoint, call_modify, andThen_ok]
    exact ran.called
  · rw [ran.successes]
    simp [found, successes]
  · have own : advanced.pipelineId = checkpoint.pipelineId := rfl
    have stored := ran.stored
    rw [own] at stored
    rw [stored, if_neg (List.cons_ne_nil _ _)]
    split
    · rename_i none
      rw [none]
      exact Keyed.find?_put_self _ advanced
    · rfl

theorem runStages_runs (execution : Execution Unit ν) (checkpoint : Checkpoint ν)
    (completed : List StageId) (stages : List (SharedStage ν))
    (going : execution.context.cancelled = false) :
    Runs (runStages silent completed (stages.map SharedStage.toStage) checkpoint)
      execution checkpoint (runShared completed stages execution.context.shared) := by
  induction stages generalizing checkpoint execution with
  | nil => exact .pure true
  | cons stage rest ih =>
      rw [List.map_cons, runStages, runShared]
      by_cases inside : stage.id ∈ completed
      · simp only [SharedStage.toStage_id, inside, true_or, if_true]
        refine .bind (observe_yields rfl) (fun _ first _ shared same => ?_)
        refine .bind (addResult_yields _) (fun _ second _ shared' same' => ?_)
        rw [← shared, ← shared']
        exact ih _ _ (same'.trans (same.trans going))
      simp only [SharedStage.toStage_id, inside, false_or, if_false]
      refine .bind (raiseIfCancelled_yields going) (fun _ first _ shared same => ?_)
      refine .bind (validate_yields stage) (fun valid second answer shared' same' => ?_)
      have kept := shared'.trans shared
      have running := same'.trans (same.trans going)
      rw [shared] at answer
      subst answer
      rw [← kept]
      by_cases valid : stage.validate second.context.shared = true
      · rw [if_pos valid, if_neg (by simp [valid])]
        refine .bind (runStage_gives stage) (fun stageResult third success state same'' => ?_)
        refine .bind (addResult_yields _) (fun _ fourth _ shared₄ same₄ => ?_)
        have alive := same₄.trans (same''.trans running)
        have left := shared₄.trans state
        rw [SharedStage.outcome]
        by_cases passed : stageResult.success = true
        · rw [if_pos passed]
          rw [success] at passed
          simp only [passed, if_true, ← left]
          refine .succeeded (fun found middle same₁ state₁ alive₁ => ?_)
          refine .bind (silent_yields _) (fun _ fifth _ shared₅ same₅ => ?_)
          rw [same₁, ← state₁, ← shared₅]
          exact ih _ _ (same₅.trans (alive₁.trans alive))
        · rw [if_neg passed]
          rw [success, Bool.not_eq_true] at passed
          simp only [passed, Bool.false_eq_true, if_false, ← left]
          refine .bind (rollback_yields stage) (fun _ fifth _ shared₅ _ => ?_)
          rw [← shared₅]
          refine .bind get_yields (fun _ sixth _ shared₆ _ => ?_)
          refine .bind (silent_yields _) (fun _ seventh _ shared₇ _ => ?_)
          rw [← shared₆, ← shared₇]
          exact .pure false
      · rw [if_neg valid, if_pos (by simpa using valid)]
        refine .bind (observe_yields rfl) (fun _ third _ shared'' same'' => ?_)
        refine .bind (changeStatistics_yields _) (fun _ fourth _ shared₄ same₄ => ?_)
        refine .bind (addResult_yields _) (fun _ fifth _ shared₅ same₅ => ?_)
        rw [← shared'', ← shared₄, ← shared₅]
        exact ih _ _ (same₅.trans (same₄.trans (same''.trans running)))

theorem call_conclude (pipelineId documentId : String) (passed : Bool) :
    call (conclude silent pipelineId documentId (.ok passed)) execution =
      (.ok ⟨pipelineId, documentId, execution.results, passed⟩, execution) := by
  cases passed
  · rfl
  · rfl

end Refinement

section Pipelines

abbrev SharedRegistry (ν : Type) := Keyed (SharedStage.id : SharedStage ν → StageId)

namespace SharedRegistry

def toRegistry (registry : SharedRegistry ν) : PipelineRegistry Unit ν where
  rows := registry.rows.map SharedStage.toStage
  distinct := by
    rw [List.map_map]
    exact registry.distinct

/-- The registered ones of the listed stages, in the listed order. -/
def stages (registry : SharedRegistry ν) (order : List StageId) : List (SharedStage ν) :=
  order.filterMap registry.find?

def pipeline (registry : SharedRegistry ν) (order : List StageId) : Pipeline Unit ν :=
  ⟨registry.toRegistry, order⟩

theorem find?_toRegistry (registry : SharedRegistry ν) (stageId : StageId) :
    registry.toRegistry.find? stageId = (registry.find? stageId).map SharedStage.toStage :=
  List.find?_map

theorem stages_pipeline (registry : SharedRegistry ν) (order : List StageId) :
    (registry.pipeline order).stages = (registry.stages order).map SharedStage.toStage := by
  rw [Pipeline.stages, stages, List.map_filterMap]
  exact congrArg (List.filterMap · order) (funext registry.find?_toRegistry)

/-- A run of the listed stages. -/
def execute (registry : SharedRegistry ν) (order : List StageId) (resume : Bool)
    (context : PipelineContext Unit ν) (store : CheckpointStore ν) :
    Except PyExc PipelineResult × Execution Unit ν :=
  call (Pipelines.execute silent (registry.pipeline order) resume) (beginning context store)

/-- The shared state a run starts its stages with. -/
def startShared (context : PipelineContext Unit ν) (store : CheckpointStore ν) (resume : Bool) :
    Shared ν :=
  match existingCheckpoint store context.pipelineId resume with
  | some existing => existing.shared ∪ context.shared
  | none => context.shared

theorem initialCheckpoint_start (context : PipelineContext Unit ν) (store : CheckpointStore ν)
    (resume : Bool) :
    call (initialCheckpoint resume) (beginning context store) =
      (.ok (startCheckpoint context store resume),
        beginning { context with shared := startShared context store resume } store) := by
  rw [initialCheckpoint, startCheckpoint, startShared, call_bind, call_get, andThen_ok]
  change call (match existingCheckpoint store context.pipelineId resume with
    | some existing => _
    | none => _) _ = _
  cases existingCheckpoint store context.pipelineId resume with
  | none => rfl
  | some existing => rfl

variable {registry : SharedRegistry ν}

/-- What an `execute` call does is what the run over its shared state does. -/
theorem execute_spec (context : PipelineContext Unit ν)
    (valid : registry.toRegistry.dependencyTable.validate = .ok ())
    (going : context.cancelled = false) (order : List StageId) (resume : Bool)
    (store : CheckpointStore ν) :
    let result := runShared (startCheckpoint context store resume).completedStages
      (registry.stages order) (startShared context store resume)
    ∃ last, registry.execute order resume context store =
        (.ok ⟨context.pipelineId, context.documentId, last.results, result.passed⟩, last) ∧
      last.context.shared = result.shared ∧
      successes last.events = result.successes.map Prod.fst ∧
      last.store.restore context.pipelineId =
        if result.successes = [] then store.restore context.pipelineId
        else some ((startCheckpoint context store resume).advance result.successes) := by
  intro result
  let start : Execution Unit ν :=
    beginning { context with shared := startShared context store resume } store
  obtain ⟨last, ran⟩ := runStages_runs start (startCheckpoint context store resume)
    (startCheckpoint context store resume).completedStages (registry.stages order) going
  refine ⟨last, ?_, ran.shared, ?_, ?_⟩
  · rw [execute, Pipelines.execute, call_bind, call_check]
    change andThen (registry.toRegistry.dependencyTable.validate, _) _ = _
    rw [valid, andThen_ok, call_bind, call_get, andThen_ok, call_bind, initialCheckpoint_start,
      andThen_ok, call_bind]
    change andThen (.ok (), start) _ = _
    rw [andThen_ok, call_bind, call_attempt, stages_pipeline, ran.called, andThen_ok,
      call_conclude]
    rfl
  · exact ran.successes
  · have own := startCheckpoint_pipelineId store context resume
    have stored := ran.stored
    rw [own] at stored
    exact stored

end SharedRegistry

end Pipelines

end LexMind.Pipelines
