import LexMind.Pipeline.HookJournal
import LexMind.Pipeline.Observations

set_option autoImplicit false

namespace LexMind.Pipelines

open Lib

inductive Fate
  | completed
  | failed
  | cancelled
  | raised
deriving DecidableEq, Repr

/-- Which hook the executor calls next, and for which stage; behind it, the stages still to do. -/
inductive Control (ω ν : Type)
  | opening
  | looping (todo : List (PipelineStage ω ν))
  | starting (stage : PipelineStage ω ν) (attempt : Nat) (todo : List (PipelineStage ω ν))
  | executing (stage : PipelineStage ω ν) (attempt : Nat) (todo : List (PipelineStage ω ν))
  | completing (stage : PipelineStage ω ν) (attempt : Nat) (result : StageResult)
      (todo : List (PipelineStage ω ν))
  | failing (stage : PipelineStage ω ν) (attempt : Nat) (lastError : String)
      (todo : List (PipelineStage ω ν))
  | pausing (stage : PipelineStage ω ν) (attempt : Nat) (todo : List (PipelineStage ω ν))
  | saved (stage : PipelineStage ω ν) (todo : List (PipelineStage ω ν))
  | rollingBack (stage : PipelineStage ω ν)
  | reporting (stage : PipelineStage ω ν)
  | cancelling
  | ended (fate : Fate)

/-- A run as its journal tells it. -/
structure RunState (ω ν : Type) where
  control : Control ω ν
  cancelled : Bool
  results : List StageResult
  checkpoint : Checkpoint ν
  store : CheckpointStore ν

/-- What a run is given. -/
structure Plan (F ω ν : Type) where
  stages : List (PipelineStage ω ν)
  completed : List StageId
  floats : FloatArithmetic F
  backoff : StageId → Backoff F

section Machine

variable {F ω ν : Type}

/-- The loop goes past the stages that are completed already. -/
def enter (completed : List StageId) :
    List (PipelineStage ω ν) → List StageResult → List (PipelineStage ω ν) × List StageResult
  | [], results => ([], results)
  | stage :: rest, results =>
      if stage.id ∈ completed then
        enter completed rest (results ++ [.skipped stage.id "already completed"])
      else (stage :: rest, results)

namespace RunState

variable (run : RunState ω ν)

def goto (control : Control ω ν) : RunState ω ν := { run with control := control }

def addResult (result : StageResult) : RunState ω ν :=
  { run with results := run.results ++ [result] }

def loop (completed : List StageId) (todo : List (PipelineStage ω ν)) : RunState ω ν :=
  { run with
    control := .looping (enter completed todo run.results).1
    results := (enter completed todo run.results).2 }

/-- Where an `execute` call starts. -/
def start (context : PipelineContext ω ν) (store : CheckpointStore ν) (resume : Bool) :
    RunState ω ν :=
  ⟨.opening, context.cancelled, [], startCheckpoint context store resume, store⟩

/-- The checkpoint after a success. -/
def save (stageId : StageId) (shared : Shared ν) : RunState ω ν :=
  { run with
    checkpoint := run.checkpoint.withStage stageId shared
    store := run.store.save (run.checkpoint.withStage stageId shared) }

end RunState

namespace Plan

variable (plan : Plan F ω ν)

def delayFor (stage : PipelineStage ω ν) (attempt : Nat) : Except PyExc F :=
  (plan.backoff stage.id).delayFor plan.floats stage.retryPolicy.strategy attempt

/-- Where the executor stands once it is to try again. -/
def retrying (stage : PipelineStage ω ν) (attempt : Nat) (todo : List (PipelineStage ω ν)) :
    Control ω ν :=
  match plan.delayFor stage attempt with
  | .error _ => .ended .raised
  | .ok delay =>
      if plan.floats.lt plan.floats.zero delay then .pausing stage attempt todo
      else .starting stage attempt todo

/-- Where it stands once `validate` has ended. -/
def gated (run : RunState ω ν) (stage : PipelineStage ω ν) (todo : List (PipelineStage ω ν)) :
    Except PyExc Bool → RunState ω ν
  | .ok true => run.goto (.starting stage 1 todo)
  | .ok false =>
      (run.addResult (.skipped stage.id "validate() returned False")).loop plan.completed todo
  | .error (.pipelineCancelled _) => run.goto .cancelling
  | .error _ => run.goto (.ended .raised)

/-- Where it stands once `execute` has ended. -/
def tried (stage : PipelineStage ω ν) (attempt : Nat) (todo : List (PipelineStage ω ν)) :
    Except PyExc StageResult → Control ω ν
  | .ok result =>
      if result.success then .completing stage attempt result todo
      else .failing stage attempt (reportedErrors result.errors) todo
  | .error exc => .failing stage attempt exc.text todo

/-- Where it stands once a failed attempt is announced. -/
def judged (run : RunState ω ν) (stage : PipelineStage ω ν) (attempt : Nat) (lastError : String)
    (todo : List (PipelineStage ω ν)) : RunState ω ν :=
  if stage.retryPolicy.shouldRetry attempt then run.goto (plan.retrying stage (attempt + 1) todo)
  else
    (run.addResult { StageResult.failed stage.id lastError with attempts := attempt }).goto
      (.rollingBack stage)

/-- What a call makes of the run; no other call is made there. -/
def advance (run : RunState ω ν) (shared : Shared ν) (call : HookCall F) : Option (RunState ω ν) :=
  match run.control, call with
  | .opening, .emitted (.pipelineStarted _) => some (run.loop plan.completed plan.stages)
  | .looping [], .emitted (.pipelineCompleted _) => some (run.goto (.ended .completed))
  | .looping (_ :: _), .emitted (.pipelineCancelled _) =>
      if run.cancelled then some (run.goto (.ended .cancelled)) else none
  | .looping (stage :: todo), .validated stageId answer =>
      if run.cancelled = false ∧ stageId = stage.id then some (plan.gated run stage todo answer)
      else none
  | .starting stage attempt todo, .emitted (.stageStarted stageId number) =>
      if stageId = stage.id ∧ number = attempt then some (run.goto (.executing stage attempt todo))
      else none
  | .executing stage attempt todo, .executed stageId answer =>
      if stageId = stage.id then some (run.goto (tried stage attempt todo answer)) else none
  | .completing stage attempt result todo, .emitted (.stageCompleted stageId) =>
      if stageId = stage.id then
        some (((run.addResult { result with attempts := attempt }).save stage.id shared).goto
          (.saved stage todo))
      else none
  | .failing stage attempt lastError todo, .emitted (.stageFailed stageId number error) =>
      if stageId = stage.id ∧ number = attempt ∧ error = lastError then
        some (plan.judged run stage attempt lastError todo)
      else none
  | .pausing stage attempt todo, .slept _ => some (run.goto (.starting stage attempt todo))
  | .saved stage todo, .emitted (.checkpointCreated stageId) =>
      if stageId = stage.id then some (run.loop plan.completed todo) else none
  | .rollingBack stage, .rolledBack stageId _ =>
      if stageId = stage.id then some (run.goto (.reporting stage)) else none
  | .reporting stage, .emitted (.pipelineFailed _ stageId) =>
      if stageId = stage.id then some (run.goto (.ended .failed)) else none
  | .cancelling, .emitted (.pipelineCancelled _) => some (run.goto (.ended .cancelled))
  | _, _ => none

section Moves

variable {plan} {run : RunState ω ν} {shared : Shared ν} {stage : PipelineStage ω ν}
  {attempt : Nat} {todo : List (PipelineStage ω ν)}

theorem advance_opening (there : run.control = .opening) (pipelineId : String) :
    plan.advance run shared (.emitted (.pipelineStarted pipelineId)) =
      some (run.loop plan.completed plan.stages) := by
  unfold advance
  rw [there]

theorem advance_completed (there : run.control = .looping []) (pipelineId : String) :
    plan.advance run shared (.emitted (.pipelineCompleted pipelineId)) =
      some (run.goto (.ended .completed)) := by
  unfold advance
  rw [there]

theorem advance_cancelled (there : run.control = .looping (stage :: todo))
    (cancelled : run.cancelled = true) (pipelineId : String) :
    plan.advance run shared (.emitted (.pipelineCancelled pipelineId)) =
      some (run.goto (.ended .cancelled)) := by
  unfold advance
  rw [there]
  exact if_pos cancelled

theorem advance_validated (there : run.control = .looping (stage :: todo))
    (going : run.cancelled = false) (answer : Except PyExc Bool) :
    plan.advance run shared (.validated stage.id answer) =
      some (plan.gated run stage todo answer) := by
  unfold advance
  rw [there]
  exact if_pos ⟨going, rfl⟩

theorem advance_started (there : run.control = .starting stage attempt todo) :
    plan.advance run shared (.emitted (.stageStarted stage.id attempt)) =
      some (run.goto (.executing stage attempt todo)) := by
  unfold advance
  rw [there]
  exact if_pos ⟨rfl, rfl⟩

theorem advance_executed (there : run.control = .executing stage attempt todo)
    (answer : Except PyExc StageResult) :
    plan.advance run shared (.executed stage.id answer) =
      some (run.goto (tried stage attempt todo answer)) := by
  unfold advance
  rw [there]
  exact if_pos rfl

theorem advance_stageCompleted {result : StageResult}
    (there : run.control = .completing stage attempt result todo) :
    plan.advance run shared (.emitted (.stageCompleted stage.id)) =
      some (((run.addResult { result with attempts := attempt }).save stage.id shared).goto
        (.saved stage todo)) := by
  unfold advance
  rw [there]
  exact if_pos rfl

theorem advance_stageFailed {lastError : String}
    (there : run.control = .failing stage attempt lastError todo) :
    plan.advance run shared (.emitted (.stageFailed stage.id attempt lastError)) =
      some (plan.judged run stage attempt lastError todo) := by
  unfold advance
  rw [there]
  exact if_pos ⟨rfl, rfl, rfl⟩

theorem advance_slept (there : run.control = .pausing stage attempt todo) (seconds : F) :
    plan.advance run shared (.slept seconds) = some (run.goto (.starting stage attempt todo)) := by
  unfold advance
  rw [there]

theorem advance_saved (there : run.control = .saved stage todo) :
    plan.advance run shared (.emitted (.checkpointCreated stage.id)) =
      some (run.loop plan.completed todo) := by
  unfold advance
  rw [there]
  exact if_pos rfl

theorem advance_rolledBack (there : run.control = .rollingBack stage) (answer : Except PyExc Unit) :
    plan.advance run shared (.rolledBack stage.id answer) = some (run.goto (.reporting stage)) := by
  unfold advance
  rw [there]
  exact if_pos rfl

theorem advance_reported (there : run.control = .reporting stage) (pipelineId : String) :
    plan.advance run shared (.emitted (.pipelineFailed pipelineId stage.id)) =
      some (run.goto (.ended .failed)) := by
  unfold advance
  rw [there]
  exact if_pos rfl

theorem advance_cancelling (there : run.control = .cancelling) (pipelineId : String) :
    plan.advance run shared (.emitted (.pipelineCancelled pipelineId)) =
      some (run.goto (.ended .cancelled)) := by
  unfold advance
  rw [there]

end Moves

/-- Between two hooks the token does not change, and a hook does not take a cancellation back. -/
def read (run : RunState ω ν) (record : HookRecord F ν) : Option (RunState ω ν) :=
  if record.found = run.cancelled ∧ (record.found = true → record.left = true) then
    (plan.advance run record.shared record.call).map
      (fun next => { next with cancelled := record.left })
  else none

/-- The machine that reads the journal of a run. -/
def monitor : Monitor (Execution (Journaled F ω ν) ν) (HookRecord F ν) (RunState ω ν) where
  journal execution := execution.context.world.journal
  read := plan.read

/-- Everything that a call can make of a run. -/
inductive Move (run : RunState ω ν) (shared : Shared ν) : HookCall F → RunState ω ν → Prop
  | opened (there : run.control = .opening) (pipelineId : String) :
      Move run shared (.emitted (.pipelineStarted pipelineId))
        (run.loop plan.completed plan.stages)
  | completed (there : run.control = .looping []) (pipelineId : String) :
      Move run shared (.emitted (.pipelineCompleted pipelineId)) (run.goto (.ended .completed))
  | stopped {stage : PipelineStage ω ν} {todo : List (PipelineStage ω ν)}
      (there : run.control = .looping (stage :: todo)) (cancelled : run.cancelled = true)
      (pipelineId : String) :
      Move run shared (.emitted (.pipelineCancelled pipelineId)) (run.goto (.ended .cancelled))
  | validated {stage : PipelineStage ω ν} {todo : List (PipelineStage ω ν)}
      (there : run.control = .looping (stage :: todo)) (going : run.cancelled = false)
      (answer : Except PyExc Bool) :
      Move run shared (.validated stage.id answer) (plan.gated run stage todo answer)
  | started {stage : PipelineStage ω ν} {attempt : Nat} {todo : List (PipelineStage ω ν)}
      (there : run.control = .starting stage attempt todo) :
      Move run shared (.emitted (.stageStarted stage.id attempt))
        (run.goto (.executing stage attempt todo))
  | executed {stage : PipelineStage ω ν} {attempt : Nat} {todo : List (PipelineStage ω ν)}
      (there : run.control = .executing stage attempt todo) (answer : Except PyExc StageResult) :
      Move run shared (.executed stage.id answer) (run.goto (tried stage attempt todo answer))
  | passed {stage : PipelineStage ω ν} {attempt : Nat} {result : StageResult}
      {todo : List (PipelineStage ω ν)}
      (there : run.control = .completing stage attempt result todo) :
      Move run shared (.emitted (.stageCompleted stage.id))
        (((run.addResult { result with attempts := attempt }).save stage.id shared).goto
          (.saved stage todo))
  | failed {stage : PipelineStage ω ν} {attempt : Nat} {lastError : String}
      {todo : List (PipelineStage ω ν)}
      (there : run.control = .failing stage attempt lastError todo) :
      Move run shared (.emitted (.stageFailed stage.id attempt lastError))
        (plan.judged run stage attempt lastError todo)
  | waited {stage : PipelineStage ω ν} {attempt : Nat} {todo : List (PipelineStage ω ν)}
      (there : run.control = .pausing stage attempt todo) (seconds : F) :
      Move run shared (.slept seconds) (run.goto (.starting stage attempt todo))
  | saved {stage : PipelineStage ω ν} {todo : List (PipelineStage ω ν)}
      (there : run.control = .saved stage todo) :
      Move run shared (.emitted (.checkpointCreated stage.id)) (run.loop plan.completed todo)
  | rolledBack {stage : PipelineStage ω ν} (there : run.control = .rollingBack stage)
      (answer : Except PyExc Unit) :
      Move run shared (.rolledBack stage.id answer) (run.goto (.reporting stage))
  | reported {stage : PipelineStage ω ν} (there : run.control = .reporting stage)
      (pipelineId : String) :
      Move run shared (.emitted (.pipelineFailed pipelineId stage.id)) (run.goto (.ended .failed))
  | cancelled (there : run.control = .cancelling) (pipelineId : String) :
      Move run shared (.emitted (.pipelineCancelled pipelineId)) (run.goto (.ended .cancelled))

theorem move_of_advance {plan : Plan F ω ν} {run next : RunState ω ν} {shared : Shared ν}
    {call : HookCall F} (moves : plan.advance run shared call = some next) :
    plan.Move run shared call next := by
  unfold advance at moves
  split at moves
  · rename_i there
    cases moves
    exact .opened there _
  · rename_i there
    cases moves
    exact .completed there _
  · rename_i there
    obtain ⟨cancelled, made⟩ := Option.ite_none_right_eq_some.mp moves
    cases made
    exact .stopped there cancelled _
  · rename_i there
    obtain ⟨⟨going, rfl⟩, made⟩ := Option.ite_none_right_eq_some.mp moves
    cases made
    exact .validated there going _
  · rename_i there
    obtain ⟨⟨rfl, rfl⟩, made⟩ := Option.ite_none_right_eq_some.mp moves
    cases made
    exact .started there
  · rename_i there
    obtain ⟨rfl, made⟩ := Option.ite_none_right_eq_some.mp moves
    cases made
    exact .executed there _
  · rename_i there
    obtain ⟨rfl, made⟩ := Option.ite_none_right_eq_some.mp moves
    cases made
    exact .passed there
  · rename_i there
    obtain ⟨⟨rfl, rfl, rfl⟩, made⟩ := Option.ite_none_right_eq_some.mp moves
    cases made
    exact .failed there
  · rename_i there
    cases moves
    exact .waited there _
  · rename_i there
    obtain ⟨rfl, made⟩ := Option.ite_none_right_eq_some.mp moves
    cases made
    exact .saved there
  · rename_i there
    obtain ⟨rfl, made⟩ := Option.ite_none_right_eq_some.mp moves
    cases made
    exact .rolledBack there _
  · rename_i there
    obtain ⟨rfl, made⟩ := Option.ite_none_right_eq_some.mp moves
    cases made
    exact .reported there _
  · rename_i there
    cases moves
    exact .cancelled there _
  · cases moves

/-- What one record can make of a run. -/
theorem read_cases {plan : Plan F ω ν} {run next : RunState ω ν} {record : HookRecord F ν}
    (reads : plan.read run record = some next) :
    record.found = run.cancelled ∧ (record.found = true → record.left = true) ∧
      ∃ moved, plan.Move run record.shared record.call moved ∧
        next = { moved with cancelled := record.left } := by
  unfold read at reads
  split at reads
  · rename_i token
    obtain ⟨moved, moves, rfl⟩ := Option.map_eq_some_iff.mp reads
    exact ⟨token.1, token.2, moved, move_of_advance moves, rfl⟩
  · cases reads

theorem tried_cases (stage : PipelineStage ω ν) (attempt : Nat)
    (todo : List (PipelineStage ω ν)) (answer : Except PyExc StageResult) :
    (∃ result, tried stage attempt todo answer = .completing stage attempt result todo) ∨
      ∃ lastError, tried stage attempt todo answer = .failing stage attempt lastError todo := by
  unfold tried
  split
  · split
    · exact .inl ⟨_, rfl⟩
    · exact .inr ⟨_, rfl⟩
  · exact .inr ⟨_, rfl⟩

theorem read_ended {plan : Plan F ω ν} {run : RunState ω ν} {record : HookRecord F ν} {fate : Fate}
    (there : run.control = .ended fate) : plan.read run record = none := by
  have nothing : plan.advance run record.shared record.call = none := by
    simp only [advance, there]
  rw [read, nothing, Option.map_none, ite_self]

theorem read_keeps_token {plan : Plan F ω ν} {run next : RunState ω ν} {record : HookRecord F ν}
    (cancelled : run.cancelled = true) (reads : plan.read run record = some next) :
    next.cancelled = true := by
  obtain ⟨found, kept, moved, _, rfl⟩ := read_cases reads
  exact kept (found.trans cancelled)

end Plan

end Machine

end LexMind.Pipelines
