import LexMind.Pipeline.HookJournal

set_option autoImplicit false

/- Seen without its journal, a run whose hooks keep one is the run of the same stages. -/
namespace LexMind.Pipelines

open Lib

variable {F ω ν α β : Type}

def Execution.forget (execution : Execution (Journaled F ω ν) ν) : Execution ω ν where
  context := execution.context.forget
  store := execution.store
  results := execution.results
  events := execution.events

theorem mirrors_recorded (note : Except PyExc α → HookCall F)
    (program : Py (PipelineContext ω ν) α) :
    Mirrors PipelineContext.forget (recorded note program) program := by
  intro context
  rw [call_recorded]
  rfl

theorem mirrors_hook {program : Py (PipelineContext (Journaled F ω ν) ν) α}
    {image : Py (PipelineContext ω ν) α}
    (mirrors : Mirrors PipelineContext.forget program image) :
    Mirrors Execution.forget (hook program) (hook image) := by
  intro execution
  have same : call image execution.forget.context =
      ((call program execution.context).1, (call program execution.context).2.forget) :=
    mirrors execution.context
  rw [hook, hook, call_onPart, call_onPart, same]
  rfl

theorem mirrors_changeStatistics (change : PipelineStatistics → PipelineStatistics) :
    Mirrors (Execution.forget (F := F) (ω := ω) (ν := ν)) (changeStatistics change)
      (changeStatistics change) :=
  mirrors_hook (.modify (fun _ => rfl))

section Stages

variable {emit : EmitFn (Journaled F ω ν) ν} {plain : EmitFn ω ν}
  (emits : ∀ event, Mirrors PipelineContext.forget (emit event) (plain event))
include emits

theorem mirrors_attemptStage (stage : PipelineStage ω ν) :
    Mirrors Execution.forget (attemptStage emit (stage.journaled F)) (attemptStage plain stage) := by
  refine .bind (.modify (fun _ => rfl)) (fun _ => ?_)
  refine .bind (mirrors_hook (mirrors_recorded _ _)) (fun result => ?_)
  exact .ite _ (.bind (mirrors_hook (emits _)) (fun _ => .pure result)) (.pure result)

theorem mirrors_failAttempt (stage : PipelineStage ω ν) (attempt : Nat) (lastError : String)
    {again : ExecutionPy (Journaled F ω ν) ν StageResult} {again' : ExecutionPy ω ν StageResult}
    (later : Mirrors Execution.forget again again') :
    Mirrors Execution.forget (failAttempt emit (stage.journaled F) attempt lastError again)
      (failAttempt plain stage attempt lastError again') := by
  refine .bind (mirrors_changeStatistics _) (fun _ => ?_)
  refine .bind (mirrors_hook (emits _)) (fun _ => ?_)
  exact .ite _ (.bind (mirrors_changeStatistics _) (fun _ => later)) (.pure _)

theorem mirrors_runAttempts (stage : PipelineStage ω ν) (fuel attempt : Nat) :
    Mirrors Execution.forget (runAttempts emit (stage.journaled F) fuel attempt)
      (runAttempts plain stage fuel attempt) := by
  induction fuel generalizing attempt with
  | zero => exact .pure _
  | succ fuel ih =>
      refine .bind (mirrors_hook (emits _)) (fun _ => ?_)
      refine .bind (.attempt (mirrors_attemptStage emits stage)) (fun ended => ?_)
      cases ended with
      | error exc => exact mirrors_failAttempt emits stage attempt _ (ih (attempt + 1))
      | ok result =>
          refine .ite _ (.pure _) ?_
          exact mirrors_failAttempt emits stage attempt _ (ih (attempt + 1))

theorem mirrors_runStage (stage : PipelineStage ω ν) :
    Mirrors Execution.forget (runStage emit (stage.journaled F)) (runStage plain stage) :=
  .bind (mirrors_changeStatistics _) (fun _ => mirrors_runAttempts emits stage _ 1)

theorem mirrors_runStages (completed : List StageId) (todo : List (PipelineStage ω ν))
    (checkpoint : Checkpoint ν) :
    Mirrors Execution.forget
      (runStages emit completed (todo.map (PipelineStage.journaled F)) checkpoint)
      (runStages plain completed todo checkpoint) := by
  induction todo generalizing checkpoint with
  | nil => exact .pure true
  | cons stage rest ih =>
      rw [List.map_cons, runStages, runStages]
      refine .ite (stage.id ∈ completed) ?_ ?_
      · refine .bind (.modify (fun _ => rfl)) (fun _ => ?_)
        exact .bind (.modify (fun _ => rfl)) (fun _ => ih checkpoint)
      · refine .bind (.get_bind (fun found => .ite _ (.throw _) (.pure _))) (fun _ => ?_)
        refine .bind (mirrors_hook (mirrors_recorded _ _)) (fun valid => ?_)
        refine .ite _ ?_ ?_
        · refine .bind (mirrors_runStage emits stage) (fun result => ?_)
          refine .bind (.modify (fun _ => rfl)) (fun _ => ?_)
          refine .ite _ ?_ ?_
          · refine .bind (.modify (fun _ => rfl)) (fun _ => .get_bind (fun found => ?_))
            refine .bind (.modify (fun _ => rfl)) (fun _ => ?_)
            exact .bind (mirrors_hook (emits _)) (fun _ => ih _)
          · refine .bind ?_ (fun _ => .get_bind (fun found => ?_))
            · exact .bind (.attempt (mirrors_hook (mirrors_recorded _ _))) (fun _ => .pure _)
            · exact .bind (mirrors_hook (emits _)) (fun _ => .pure false)
        · refine .bind (.modify (fun _ => rfl)) (fun _ => ?_)
          refine .bind (mirrors_changeStatistics _) (fun _ => ?_)
          exact .bind (.modify (fun _ => rfl)) (fun _ => ih checkpoint)

theorem mirrors_conclude (pipelineId documentId : String) (ended : Except PyExc Bool) :
    Mirrors Execution.forget (conclude emit pipelineId documentId ended)
      (conclude plain pipelineId documentId ended) := by
  rcases ended with exc | (_ | _)
  · cases exc with
    | pipelineCancelled message =>
        refine .get_bind (fun found => .bind (mirrors_hook (emits _)) (fun _ => ?_))
        exact .get_bind (fun found => .pure _)
    | _ => exact .throw _
  · exact .get_bind (fun found => .pure _)
  · refine .get_bind (fun found => .bind (mirrors_hook (emits _)) (fun _ => ?_))
    exact .get_bind (fun found => .pure _)

omit emits in
theorem mirrors_initialCheckpoint (resume : Bool) :
    Mirrors (Execution.forget (F := F) (ω := ω) (ν := ν)) (initialCheckpoint resume)
      (initialCheckpoint resume) := by
  refine .get_bind (fun found => ?_)
  dsimp only
  have same : existingCheckpoint found.forget.store found.forget.context.pipelineId resume =
      existingCheckpoint found.store found.context.pipelineId resume := rfl
  rw [same]
  cases existingCheckpoint found.store found.context.pipelineId resume with
  | none => exact .pure _
  | some existing => exact .bind (mirrors_hook (.modify (fun _ => rfl))) (fun _ => .pure existing)

theorem mirrors_execute (pipeline : Pipeline ω ν) (resume : Bool) :
    Mirrors Execution.forget (execute emit (pipeline.journaled F) resume)
      (execute plain pipeline resume) := by
  rw [execute, execute, pipeline.validate_journaled, pipeline.stages_journaled]
  refine .bind (.check _) (fun _ => .get_bind (fun found => ?_))
  refine .bind (mirrors_initialCheckpoint resume) (fun checkpoint => ?_)
  refine .bind (mirrors_hook (emits _)) (fun _ => ?_)
  refine .bind (.attempt (mirrors_runStages emits _ _ checkpoint)) (fun ended => ?_)
  exact mirrors_conclude emits _ _ ended

end Stages

namespace Surroundings

variable (surroundings : Surroundings F ω ν)

def plainEmit : EmitFn ω ν := fun event => modify (surroundings.emit event)

def plainTiming : Timing F ω ν where
  floats := surroundings.floats
  backoff := surroundings.backoff
  sleep seconds := modify (surroundings.sleep seconds)

theorem mirrors_emitFn (event : PipelineEvent) :
    Mirrors PipelineContext.forget (surroundings.emitFn event) (surroundings.plainEmit event) :=
  mirrors_recorded (fun _ => .emitted event) _

theorem mirrors_sleep (seconds : F) :
    Mirrors PipelineContext.forget (surroundings.timing.sleep seconds)
      (surroundings.plainTiming.sleep seconds) :=
  mirrors_recorded (fun _ => .slept seconds) _

theorem mirrors_pause (stage : PipelineStage ω ν) (attempt : Nat) :
    Mirrors PipelineContext.forget (surroundings.timing.pause (stage.journaled F) attempt)
      (surroundings.plainTiming.pause stage attempt) := by
  refine .bind (.check _) (fun delay => ?_)
  exact .ite _ (surroundings.mirrors_sleep delay) (.pure _)

theorem mirrors_paced (registry : PipelineRegistry ω ν) (event : PipelineEvent) :
    Mirrors PipelineContext.forget
      (paced surroundings.emitFn surroundings.timing (registry.journaled F) event)
      (paced surroundings.plainEmit surroundings.plainTiming registry event) := by
  cases event with
  | stageStarted stageId attempt =>
      refine .bind ?_ (fun _ => surroundings.mirrors_emitFn _)
      rw [Timing.waitFor, Timing.waitFor, registry.find?_journaled]
      cases registry.find? stageId with
      | none => exact .pure _
      | some stage => exact .ite _ (surroundings.mirrors_pause stage attempt) (.pure _)
  | _ => exact surroundings.mirrors_emitFn _

/-- A run that keeps a journal answers, and leaves its execution, as the run without one does. -/
theorem run_plain (pipeline : Pipeline ω ν) (resume : Bool) (context : PipelineContext ω ν)
    (store : CheckpointStore ν) :
    call (execute (paced surroundings.plainEmit surroundings.plainTiming pipeline.registry)
        pipeline resume) (beginning context store) =
      ((surroundings.run pipeline resume context store).1,
        (surroundings.run pipeline resume context store).2.forget) :=
  mirrors_execute (surroundings.mirrors_paced pipeline.registry) pipeline resume
    (beginning (context.noted []) store)

end Surroundings

end LexMind.Pipelines
