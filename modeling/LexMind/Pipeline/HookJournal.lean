import LexMind.Lib.Monitor
import LexMind.Pipeline.RetryDelay

set_option autoImplicit false

/- Runs whose hooks keep a journal, and the machine that reads it. -/
namespace LexMind.Pipelines

open Lib

/-- A call of one of the hooks, with its answer. -/
inductive HookCall (F : Type)
  | emitted (event : PipelineEvent)
  | slept (seconds : F)
  | validated (stage : StageId) (answer : Except PyExc Bool)
  | executed (stage : StageId) (answer : Except PyExc StageResult)
  | rolledBack (stage : StageId) (answer : Except PyExc Unit)

/-- The call, whether the token was cancelled before and after it, and the shared map that it
left. -/
structure HookRecord (F ν : Type) where
  call : HookCall F
  found : Bool
  left : Bool
  shared : Shared ν

/-- The world of a run, with the journal of its hooks, oldest first. -/
structure Journaled (F ω ν : Type) where
  inner : ω
  journal : List (HookRecord F ν)

section Recording

variable {F ω ν α : Type}

def PipelineContext.forget (context : PipelineContext (Journaled F ω ν) ν) :
    PipelineContext ω ν where
  pipelineId := context.pipelineId
  documentId := context.documentId
  cancelled := context.cancelled
  reason := context.reason
  statistics := context.statistics
  shared := context.shared
  world := context.world.inner

def PipelineContext.noted (context : PipelineContext ω ν) (journal : List (HookRecord F ν)) :
    PipelineContext (Journaled F ω ν) ν where
  pipelineId := context.pipelineId
  documentId := context.documentId
  cancelled := context.cancelled
  reason := context.reason
  statistics := context.statistics
  shared := context.shared
  world := ⟨context.world, journal⟩

/-- The hook, which also writes down that it was called. -/
def recorded (note : Except PyExc α → HookCall F) (program : Py (PipelineContext ω ν) α) :
    Py (PipelineContext (Journaled F ω ν) ν) α := fun context =>
  let ended := call program context.forget
  let after := ended.2.noted (context.world.journal ++
    [⟨note ended.1, context.cancelled, ended.2.cancelled, ended.2.shared⟩])
  match ended.1 with
  | .ok value => .ok value after
  | .error exc => .error exc after

theorem call_recorded (note : Except PyExc α → HookCall F) (program : Py (PipelineContext ω ν) α)
    (context : PipelineContext (Journaled F ω ν) ν) :
    call (recorded note program) context =
      ((call program context.forget).1,
        (call program context.forget).2.noted (context.world.journal ++
          [⟨note (call program context.forget).1, context.cancelled,
            (call program context.forget).2.cancelled, (call program context.forget).2.shared⟩])) := by
  rw [call, recorded]
  cases (call program context.forget).1 <;> rfl

namespace PipelineStage

variable (F) in
def journaled (stage : PipelineStage ω ν) : PipelineStage (Journaled F ω ν) ν where
  id := stage.id
  dependencies := stage.dependencies
  retryPolicy := stage.retryPolicy
  validate := recorded (.validated stage.id) stage.validate
  execute := recorded (.executed stage.id) stage.execute
  rollback := recorded (.rolledBack stage.id) stage.rollback

end PipelineStage

variable (F) in
def PipelineRegistry.journaled (registry : PipelineRegistry ω ν) :
    PipelineRegistry (Journaled F ω ν) ν where
  rows := registry.rows.map (PipelineStage.journaled F)
  distinct := by
    rw [List.map_map]
    exact registry.distinct

variable (F) in
def Pipeline.journaled (pipeline : Pipeline ω ν) : Pipeline (Journaled F ω ν) ν :=
  ⟨pipeline.registry.journaled F, pipeline.order⟩

theorem PipelineRegistry.find?_journaled (registry : PipelineRegistry ω ν) (stageId : StageId) :
    (registry.journaled F).find? stageId =
      (registry.find? stageId).map (PipelineStage.journaled F) :=
  List.find?_map

theorem Pipeline.stages_journaled (pipeline : Pipeline ω ν) :
    (pipeline.journaled F).stages = pipeline.stages.map (PipelineStage.journaled F) := by
  rw [stages, stages, List.map_filterMap]
  exact congrArg (List.filterMap · pipeline.order) (funext pipeline.registry.find?_journaled)

theorem Pipeline.validate_journaled (pipeline : Pipeline ω ν) :
    (pipeline.journaled F).validate = pipeline.validate := by
  have same : (pipeline.registry.journaled F).dependencyTable =
      pipeline.registry.dependencyTable := by
    apply Keyed.ext_rows
    exact List.map_map
  rw [validate, validate, journaled, same]

/-- A cancelled token stays so: it has no other method than `cancel`. -/
def KeepsToken (program : Py (PipelineContext ω ν) α) : Prop :=
  ∀ context, context.cancelled = true → (call program context).2.cancelled = true

structure PipelineStage.KeepsToken (stage : PipelineStage ω ν) : Prop where
  validate : Pipelines.KeepsToken stage.validate
  execute : Pipelines.KeepsToken stage.execute
  rollback : Pipelines.KeepsToken stage.rollback

/-- A pipeline whose stages cannot take a cancellation back. -/
structure TokenPipeline (ω ν : Type) extends Pipeline ω ν where
  keeps : ∀ stage ∈ toPipeline.stages, stage.KeepsToken

end Recording

/-- What the executor of a run is given: an `emit` and a `sleep` that raise nothing, and the delays
of the retry policies. -/
structure Surroundings (F ω ν : Type) where
  floats : FloatArithmetic F
  backoff : StageId → Backoff F
  emit : PipelineEvent → PipelineContext ω ν → PipelineContext ω ν
  sleep : F → PipelineContext ω ν → PipelineContext ω ν
  emit_keeps : ∀ event context, context.cancelled = true → (emit event context).cancelled = true
  sleep_keeps : ∀ seconds context, context.cancelled = true →
    (sleep seconds context).cancelled = true

section Runs

variable {F ω ν : Type} (surroundings : Surroundings F ω ν)

namespace Surroundings

def emitFn : EmitFn (Journaled F ω ν) ν :=
  fun event => recorded (fun _ => .emitted event) (modify (surroundings.emit event))

def timing : Timing F (Journaled F ω ν) ν where
  floats := surroundings.floats
  backoff := surroundings.backoff
  sleep seconds := recorded (fun _ => .slept seconds) (modify (surroundings.sleep seconds))

/-- An `execute` call whose hooks keep a journal. -/
def run (pipeline : Pipeline ω ν) (resume : Bool) (context : PipelineContext ω ν)
    (store : CheckpointStore ν) :
    Except PyExc PipelineResult × Execution (Journaled F ω ν) ν :=
  call (execute (paced surroundings.emitFn surroundings.timing (pipeline.journaled F).registry)
    (pipeline.journaled F) resume) (beginning (context.noted []) store)

/-- The journal of the hooks in a run. -/
def journal (pipeline : Pipeline ω ν) (resume : Bool) (context : PipelineContext ω ν)
    (store : CheckpointStore ν) : List (HookRecord F ν) :=
  (surroundings.run pipeline resume context store).2.context.world.journal

end Surroundings

end Runs

end LexMind.Pipelines
