import LexMind.Pipeline.Stage

set_option autoImplicit false

namespace LexMind.Pipelines

open Lib

/-- A snapshot after a completed stage. -/
structure Checkpoint (ν : Type) where
  pipelineId : String
  documentId : String
  completedStages : List StageId
  lastStage : Option StageId
  shared : Shared ν

def Checkpoint.withStage {ν : Type} (checkpoint : Checkpoint ν) (stageId : StageId)
    (shared : Shared ν) : Checkpoint ν :=
  { checkpoint with
    completedStages :=
      if stageId ∈ checkpoint.completedStages then checkpoint.completedStages
      else checkpoint.completedStages ++ [stageId]
    lastStage := some stageId
    shared := shared }

/-- `InMemoryCheckpointStore`: the latest checkpoint of each pipeline. -/
abbrev CheckpointStore (ν : Type) := Keyed (Checkpoint.pipelineId : Checkpoint ν → String)

namespace CheckpointStore

variable {ν : Type}

def save (store : CheckpointStore ν) (checkpoint : Checkpoint ν) : CheckpointStore ν :=
  store.put checkpoint

def restore (store : CheckpointStore ν) (pipelineId : String) : Option (Checkpoint ν) :=
  store.find? pipelineId

def reset (store : CheckpointStore ν) (pipelineId : String) : CheckpointStore ν :=
  store.erase pipelineId

end CheckpointStore

/-- What the executor publishes, with its payload. -/
inductive PipelineEvent
  | pipelineStarted (pipelineId : String)
  | stageStarted (stage : StageId) (attempt : Nat)
  | stageCompleted (stage : StageId)
  | stageFailed (stage : StageId) (attempt : Nat) (error : String)
  | checkpointCreated (stage : StageId)
  | pipelineCompleted (pipelineId : String)
  | pipelineCancelled (pipelineId : String)
  | pipelineFailed (pipelineId : String) (stage : StageId)
deriving DecidableEq, Repr

/-- What happened to a stage in one run, as an observer of its hooks sees it. -/
inductive StageEvent
  | alreadyCompleted (stage : StageId)
  /-- `validate` answered False. -/
  | invalid (stage : StageId)
  /-- `execute` was called. -/
  | called (stage : StageId)
  | succeeded (stage : StageId)
deriving DecidableEq, Repr

/-- One run in progress: its context, the executor's store, the stage results so far
and the observations, oldest first. -/
structure Execution (ω ν : Type) where
  context : PipelineContext ω ν
  store : CheckpointStore ν
  results : List StageResult
  events : List StageEvent

abbrev ExecutionPy (ω ν α : Type) := Py (Execution ω ν) α

section Executor

variable {ω ν : Type}

/-- The injected `emit`; like a hook it may change the context, and may raise. -/
abbrev EmitFn (ω ν : Type) := PipelineEvent → Py (PipelineContext ω ν) Unit

def silent : EmitFn ω ν := fun _ => pure ()

/-- A call of a hook, which sees the context only. -/
def hook {α : Type} (program : Py (PipelineContext ω ν) α) : ExecutionPy ω ν α :=
  onPart Execution.context (fun execution context => { execution with context := context }) program

def observe (event : StageEvent) : ExecutionPy ω ν Unit :=
  modify (fun execution => { execution with events := execution.events ++ [event] })

def addResult (result : StageResult) : ExecutionPy ω ν Unit :=
  modify (fun execution => { execution with results := execution.results ++ [result] })

def changeStatistics (change : PipelineStatistics → PipelineStatistics) : ExecutionPy ω ν Unit :=
  hook (modify (fun context => { context with statistics := change context.statistics }))

/-- `"; ".join(errors) or "stage reported failure"`. -/
def reportedErrors (errors : List String) : String :=
  let joined := "; ".intercalate errors
  if joined = "" then "stage reported failure" else joined

def succeeded : Except PyExc StageResult → Bool
  | .ok result => result.success
  | .error _ => false

variable (emit : EmitFn ω ν)

/-- The body of the `try` in one attempt. -/
def attemptStage (stage : PipelineStage ω ν) : ExecutionPy ω ν StageResult := do
  observe (.called stage.id)
  let result ← hook stage.execute
  if result.success then
    hook (emit (.stageCompleted stage.id))
  return result

/-- What follows an attempt that failed: `again`, or the failed result. -/
def failAttempt (stage : PipelineStage ω ν) (attempt : Nat) (lastError : String)
    (again : ExecutionPy ω ν StageResult) : ExecutionPy ω ν StageResult := do
  changeStatistics (fun statistics => statistics.addFailure stage.id)
  hook (emit (.stageFailed stage.id attempt lastError))
  if stage.retryPolicy.shouldRetry attempt then
    changeStatistics (fun statistics => statistics.addRetry stage.id)
    again
  else
    return { StageResult.failed stage.id lastError with attempts := attempt }

/-- What follows an attempt, from the way it has ended. -/
def judgeAttempt (stage : PipelineStage ω ν) (attempt : Nat)
    (again : ExecutionPy ω ν StageResult) : Except PyExc StageResult → ExecutionPy ω ν StageResult
  | .ok result =>
      if result.success then return { result with attempts := attempt }
      else failAttempt emit stage attempt (reportedErrors result.errors) again
  | .error exc => failAttempt emit stage attempt exc.text again

/-- The loop of `_run_stage` from an attempt on, for at most `fuel` attempts. -/
def runAttempts (stage : PipelineStage ω ν) : Nat → Nat → ExecutionPy ω ν StageResult
  | 0, attempt => return { StageResult.failed stage.id "unknown error" with attempts := attempt }
  | fuel + 1, attempt => do
      hook (emit (.stageStarted stage.id attempt))
      let ended ← Lib.attempt (attemptStage emit stage)
      judgeAttempt emit stage attempt (runAttempts stage fuel (attempt + 1)) ended

theorem RetryPolicy.lt_of_shouldRetry {policy : RetryPolicy} {attempt : Nat}
    (retried : policy.shouldRetry attempt = true) : (attempt : Int) < policy.maxAttempts := by
  simp only [RetryPolicy.shouldRetry, decide_eq_true_eq] at retried
  exact retried.2

theorem judgeAttempt_congr (stage : PipelineStage ω ν) (attempt : Nat)
    {first second : ExecutionPy ω ν StageResult}
    (same : stage.retryPolicy.shouldRetry attempt = true → first = second) :
    judgeAttempt emit stage attempt first = judgeAttempt emit stage attempt second := by
  by_cases again : stage.retryPolicy.shouldRetry attempt = true
  · rw [same again]
  · have unused (lastError : String) : failAttempt emit stage attempt lastError first =
        failAttempt emit stage attempt lastError second := by
      simp only [failAttempt, again, Bool.false_eq_true, if_false]
    funext ended
    cases ended with
    | ok result => simp only [judgeAttempt, unused]
    | error exc => simp only [judgeAttempt, unused]

/-- Fuel beyond what the policy allows is never used. -/
theorem runAttempts_fuel (stage : PipelineStage ω ν) (fuel attempt : Nat) (positive : 0 < fuel)
    (enough : stage.retryPolicy.maxAttempts < fuel + attempt) :
    runAttempts emit stage (fuel + 1) attempt = runAttempts emit stage fuel attempt := by
  induction fuel generalizing attempt with
  | zero => omega
  | succ fuel ih =>
      have again : stage.retryPolicy.shouldRetry attempt = true →
          runAttempts emit stage (fuel + 1) (attempt + 1) =
            runAttempts emit stage fuel (attempt + 1) := by
        intro retried
        have below := RetryPolicy.lt_of_shouldRetry retried
        exact ih (attempt + 1) (by omega) (by omega)
      have judged := judgeAttempt_congr emit stage attempt again
      calc runAttempts emit stage (fuel + 1 + 1) attempt
          = (do
              hook (emit (.stageStarted stage.id attempt))
              let ended ← Lib.attempt (attemptStage emit stage)
              judgeAttempt emit stage attempt (runAttempts emit stage (fuel + 1) (attempt + 1))
                ended) := rfl
        _ = runAttempts emit stage (fuel + 1) attempt := by rw [judged]; rfl

/-- The policy ends the loop before the fuel does, as `runAttempts_fuel` shows. -/
def runStage (stage : PipelineStage ω ν) : ExecutionPy ω ν StageResult := do
  changeStatistics (fun statistics => statistics.openMetrics stage.id)
  runAttempts emit stage (stage.retryPolicy.maxAttempts.toNat + 1) 1

def rollback (stage : PipelineStage ω ν) : ExecutionPy ω ν Unit := do
  let _ ← Lib.attempt (hook stage.rollback)

/-- `reason or "pipeline cancelled"`. -/
def cancellationText (reason : Option String) : String :=
  match reason with
  | none => "pipeline cancelled"
  | some text => if text = "" then "pipeline cancelled" else text

def raiseIfCancelled : ExecutionPy ω ν Unit := do
  let context := (← get).context
  if context.cancelled then
    throw (.pipelineCancelled (cancellationText context.reason))

theorem call_raiseIfCancelled (execution : Execution ω ν) :
    call raiseIfCancelled execution =
      (if execution.context.cancelled then
        .error (.pipelineCancelled (cancellationText execution.context.reason)) else .ok (),
        execution) := by
  rw [raiseIfCancelled, call_bind, call_get, andThen_ok, call_ite]
  split
  · rfl
  · rfl

def saveCheckpoint (checkpoint : Checkpoint ν) : ExecutionPy ω ν Unit :=
  modify (fun execution => { execution with store := execution.store.save checkpoint })

/-- The stage loop; it answers False where a stage has failed. -/
def runStages (completed : List StageId) :
    List (PipelineStage ω ν) → Checkpoint ν → ExecutionPy ω ν Bool
  | [], _ => return true
  | stage :: rest, checkpoint => do
      if stage.id ∈ completed then
        observe (.alreadyCompleted stage.id)
        addResult (.skipped stage.id "already completed")
        runStages completed rest checkpoint
      else
        raiseIfCancelled
        if ← hook stage.validate then
          let result ← runStage emit stage
          addResult result
          if result.success then
            observe (.succeeded stage.id)
            let advanced := checkpoint.withStage stage.id (← get).context.shared
            saveCheckpoint advanced
            hook (emit (.checkpointCreated stage.id))
            runStages completed rest advanced
          else
            rollback stage
            hook (emit (.pipelineFailed (← get).context.pipelineId stage.id))
            return false
        else
          observe (.invalid stage.id)
          changeStatistics (fun statistics => statistics.markSkipped stage.id)
          addResult (.skipped stage.id "validate() returned False")
          runStages completed rest checkpoint

/-- The checkpoint a run goes on from. -/
def existingCheckpoint (store : CheckpointStore ν) (pipelineId : String) (resume : Bool) :
    Option (Checkpoint ν) :=
  if resume then store.restore pipelineId else none

/-- The existing checkpoint, whose keys are added over those of the context, or a new one. -/
def initialCheckpoint (resume : Bool) : ExecutionPy ω ν (Checkpoint ν) := do
  let execution ← get
  let context := execution.context
  match existingCheckpoint execution.store context.pipelineId resume with
  | some existing =>
      hook (modify (fun context => { context with shared := existing.shared ∪ context.shared }))
      return existing
  | none => return ⟨context.pipelineId, context.documentId, [], none, ∅⟩

/-- What follows the stage loop, from the way it has ended. -/
def conclude (pipelineId documentId : String) :
    Except PyExc Bool → ExecutionPy ω ν PipelineResult
  | .ok true => do
      hook (emit (.pipelineCompleted (← get).context.pipelineId))
      return ⟨pipelineId, documentId, (← get).results, true⟩
  | .ok false => return ⟨pipelineId, documentId, (← get).results, false⟩
  | .error (.pipelineCancelled _) => do
      hook (emit (.pipelineCancelled (← get).context.pipelineId))
      return ⟨pipelineId, documentId, (← get).results, false⟩
  | .error exc => throw exc

def execute (pipeline : Pipeline ω ν) (resume : Bool) : ExecutionPy ω ν PipelineResult := do
  Lib.check pipeline.validate
  let context := (← get).context
  let checkpoint ← initialCheckpoint resume
  hook (emit (.pipelineStarted context.pipelineId))
  let ended ← Lib.attempt
    (runStages emit checkpoint.completedStages pipeline.stages checkpoint)
  conclude emit context.pipelineId context.documentId ended

/-- Where a run starts. -/
def beginning (context : PipelineContext ω ν) (store : CheckpointStore ν) : Execution ω ν :=
  ⟨context, store, [], []⟩

end Executor

end LexMind.Pipelines
