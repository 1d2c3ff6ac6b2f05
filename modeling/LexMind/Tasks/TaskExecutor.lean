import LexMind.Events.EventBus
import LexMind.Tasks.Task
import Mathlib.Logic.Function.Basic

set_option autoImplicit false

namespace LexMind.Tasks

open Lib Events

/- Events of an execution, each with the slots its class adds. -/

def taskSubmitted (task : Task) : EventObject :=
  domainEvent "TaskSubmittedEvent" task.taskId
    [("task_id", .str task.taskId), ("task_type", .str task.taskType)]

def taskStarted (task : Task) (attempt : Int) : EventObject :=
  domainEvent "TaskStartedEvent" task.taskId
    [("task_id", .str task.taskId), ("task_type", .str task.taskType), ("attempt", .int attempt)]

def taskCompleted (task : Task) (result : String) (attempts : Int) : EventObject :=
  domainEvent "TaskCompletedEvent" task.taskId
    [("task_id", .str task.taskId), ("task_type", .str task.taskType), ("result", .str result),
      ("attempts", .int attempts)]

def taskFailed (task : Task) (attempts : Int) : EventObject :=
  domainEvent "TaskFailedEvent" task.taskId
    [("task_id", .str task.taskId), ("task_type", .str task.taskType),
      ("error_message", .str task.errorMessage), ("attempts", .int attempts)]

def taskRetried (task : Task) (attempt : Int) : EventObject :=
  domainEvent "TaskRetriedEvent" task.taskId
    [("task_id", .str task.taskId), ("task_type", .str task.taskType), ("attempt", .int attempt)]

def taskCancelled (task : Task) (previous : TaskStatus) : EventObject :=
  domainEvent "TaskCancelledEvent" task.taskId
    [("task_id", .str task.taskId), ("task_type", .str task.taskType),
      ("previous_status", .str previous.value)]

/-- The task types that have a handler. -/
abbrev TaskRegistry := List String

namespace TaskRegistry

/-- `handlerGiven` says whether the handler is not `None`. -/
def register (taskType : String) (handlerGiven : Bool) : Py TaskRegistry Unit := do
  if taskType = "" then throw (.valueError "task_type must not be empty")
  if handlerGiven = false then throw (.valueError "handler must not be None")
  modify (fun registered => List.insert taskType registered)

/-- Look for the handler of a type. -/
def find (taskType : String) : Py TaskRegistry Unit := do
  if taskType ∉ (← get) then
    throw (.taskHandlerNotFound ("No handler registered for task type '" ++ taskType ++ "'"))

end TaskRegistry

/-- The service on one task of a state: where the task and the registry are, what publishing to the
bus does, what the task's handler and the delay do. All of these may act on the task. -/
structure Executor (σ : Type) where
  task : σ → Task
  write : σ → Task → σ
  find : String → Py σ Unit
  publish : EventObject → Py σ Unit
  handle : Py σ String
  delay : Rat → Py σ Unit
  task_write : ∀ state written, task (write state written) = written

namespace TaskExecutorService

variable {σ : Type} (executor : Executor σ) (clock : Nat → Timestamp)

/-- Run a program on the task. -/
def onTask {α : Type} (program : Py Task α) : Py σ α := onPart executor.task executor.write program

def readTask : Py σ Task := executor.task <$> get

/-- What the handler's outcome leads to; `again` is the next iteration of the loop. -/
def afterHandler (attempt : Nat) (again : Py σ Unit) : Except PyExc String → Py σ Unit
  | .error exc => do
      onTask executor (modify (fun task => { task with errorMessage := exc.text }))
      let task ← readTask executor
      if attempt ≤ task.maxRetries then
        executor.publish (taskRetried task (attempt + 1))
        let task ← readTask executor
        executor.delay (if task.timeoutSeconds = 0 then 0 else task.timeoutSeconds)
        again
      else
        onTask executor (Task.transitionTo .failed (clock 1))
        executor.publish (taskFailed (← readTask executor) attempt)
  | .ok result => do
      onTask executor (modify (fun task => { task with result := result }))
      onTask executor (Task.transitionTo .completed (clock 1))
      executor.publish (taskCompleted (← readTask executor) result attempt)

/-- One iteration of the loop. -/
def tryOnce (attempt : Nat) (again : Py σ Unit) : Py σ Unit := do
  onTask executor (modify (fun task => { task with attempts := attempt }))
  executor.publish (taskStarted (← readTask executor) attempt)
  let outcome ← Lib.attempt executor.handle
  afterHandler executor clock attempt again outcome

/-- The loop, for one iteration more than its first argument; `attemptsFrom_enough` says how many
are enough. -/
def attemptsFrom : Nat → Nat → Py σ Unit
  | 0, attempt => tryOnce executor clock attempt (pure ())
  | fuel + 1, attempt => tryOnce executor clock attempt (attemptsFrom fuel (attempt + 1))

/-- What `execute` does with a PENDING task once it has announced it. -/
def runPending : Py σ Unit := do
  executor.find (← readTask executor).taskType
  onTask executor (Task.transitionTo .running (clock 0))
  attemptsFrom executor clock (← readTask executor).maxRetries.toNat 1

/-- The task is returned as it is then. -/
def execute : Py σ Unit := do
  let task ← readTask executor
  if task.status = .pending then
    executor.publish (taskSubmitted task)
    runPending executor clock
  else
    throw (.invalidTaskState ("Task " ++ task.taskId ++ " must be PENDING to execute, got "
      ++ task.status.value))

def cancel : Py σ Unit := do
  let task ← readTask executor
  if task.isTerminal then
    throw (.invalidTaskState ("Cannot cancel task " ++ task.taskId ++ " in state "
      ++ task.status.value))
  else
    onTask executor (Task.transitionTo .cancelled (clock 0))
    executor.publish (taskCancelled (← readTask executor) task.status)

section Calls

variable {executor} {α : Type} (state : σ)

@[simp] theorem call_onTask (program : Py Task α) :
    call (onTask executor program) state =
      ((call program (executor.task state)).1,
        executor.write state (call program (executor.task state)).2) := by
  simp [onTask]

@[simp] theorem call_readTask :
    call (readTask executor) state = (.ok (executor.task state), state) := by
  simp [readTask]

end Calls

variable {executor} {limit : Int}

/-- The retry limit of the task stands. -/
def Limited (executor : Executor σ) (limit : Int) (state : σ) : Prop :=
  (executor.task state).maxRetries = limit

/-- Bus, handler and delay leave the retry limit alone: no method of a task assigns it. -/
structure KeepsLimit (executor : Executor σ) : Prop where
  publish : ∀ event limit state, Limited executor limit state →
    Limited executor limit (call (executor.publish event) state).2
  handle : ∀ limit state, Limited executor limit state →
    Limited executor limit (call executor.handle state).2
  delay : ∀ seconds limit state, Limited executor limit state →
    Limited executor limit (call (executor.delay seconds) state).2

theorem onTask_limited {α : Type} {program : Py Task α}
    (keeps : ∀ task, (call program task).2.maxRetries = task.maxRetries)
    {state : σ} (limited : Limited executor limit state) :
    Limited executor limit (call (onTask executor program) state).2 := by
  rw [Limited, call_onTask, executor.task_write]
  exact (keeps _).trans limited

/-- What comes after an iteration matters only where the limit lets it come. -/
theorem tryOnce_congr (keeps : KeepsLimit executor) (attempt : Nat) {first second : Py σ Unit}
    (agree : attempt ≤ limit → ∀ state, Limited executor limit state →
      call first state = call second state)
    {state : σ} (limited : Limited executor limit state) :
    call (tryOnce executor clock attempt first) state =
      call (tryOnce executor clock attempt second) state := by
  unfold tryOnce
  refine bind_congr_on (onTask_limited (fun _ => rfl) limited) (fun _ counted limited => ?_)
  rw [call_bind, call_bind, call_readTask, andThen_ok, andThen_ok]
  refine bind_congr_on (keeps.publish _ limit _ limited) (fun _ announced limited => ?_)
  have asked : Limited executor limit (call (Lib.attempt executor.handle) announced).2 := by
    rw [call_attempt]
    exact keeps.handle limit _ limited
  refine bind_congr_on asked (fun answer handled limited => ?_)
  cases answer with
  | ok result => rfl
  | error exc =>
      unfold afterHandler
      refine bind_congr_on (onTask_limited (fun _ => rfl) limited) (fun _ noted limited => ?_)
      rw [call_bind, call_bind, call_readTask, andThen_ok, andThen_ok]
      by_cases within : attempt ≤ (executor.task noted).maxRetries
      · have allowed : attempt ≤ limit := limited ▸ within
        rw [if_pos within, if_pos within]
        refine bind_congr_on (keeps.publish _ limit _ limited) (fun _ told limited => ?_)
        rw [call_bind, call_bind, call_readTask, andThen_ok, andThen_ok]
        exact bind_congr_on (keeps.delay _ limit _ limited) (fun _ _ limited => agree allowed _ limited)
      · rw [if_neg within, if_neg within]

/-- One iteration for each retry the limit allows, and one more, are enough: the loop has then
returned. -/
theorem attemptsFrom_enough (keeps : KeepsLimit executor) {fuel attempt : Nat}
    (enough : limit < attempt + fuel) {state : σ} (limited : Limited executor limit state) :
    call (attemptsFrom executor clock (fuel + 1) attempt) state =
      call (attemptsFrom executor clock fuel attempt) state := by
  induction fuel generalizing attempt state with
  | zero =>
      refine tryOnce_congr clock keeps attempt (fun within => ?_) limited
      exact absurd within (by omega)
  | succ fuel ih =>
      refine tryOnce_congr clock keeps attempt (fun _ _ limited => ?_) limited
      exact ih (by push_cast at enough ⊢; omega) limited

theorem attemptsFrom_more (keeps : KeepsLimit executor) {fuel attempt : Nat}
    (enough : limit < attempt + fuel) {state : σ} (limited : Limited executor limit state)
    (more : Nat) :
    call (attemptsFrom executor clock (fuel + more) attempt) state =
      call (attemptsFrom executor clock fuel attempt) state := by
  induction more with
  | zero => rfl
  | succ more ih =>
      have still : limit < attempt + ((fuel + more : Nat) : Int) := by
        push_cast
        omega
      exact (attemptsFrom_enough clock keeps still limited).trans ih

end TaskExecutorService

abbrev TaskRef := Nat

/-- The task types that have a handler, and the tasks in memory. -/
structure TaskState where
  registered : TaskRegistry
  tasks : TaskRef → Task

def onRegistered {α : Type} (program : Py TaskRegistry α) : Py (Wired TaskState) α :=
  onService (onPart TaskState.registered
    (fun state registered => { state with registered := registered }) program)

def TaskState.write (state : TaskState) (ref : TaskRef) (task : Task) : TaskState :=
  { state with tasks := Function.update state.tasks ref task }

/-- What a handler does when it is called, and the delay after a call that raises. Both see the
task and may act on it by its methods. The delay is given its seconds; it returns. -/
structure Turn where
  handle : Py Task String
  delay : Rat → Task → Task
  handle_keeps : ∀ task, (call handle task).2.maxRetries = task.maxRetries
  delay_keeps : ∀ seconds task, (delay seconds task).maxRetries = task.maxRetries

/-- The service with the event bus of the events module, on one of the tasks in memory. -/
def storedTask (ref : TaskRef) (turn : Turn) : Executor (Wired TaskState) where
  task := fun wired => wired.service.tasks ref
  write := fun wired task => { wired with service := wired.service.write ref task }
  find := fun taskType => onRegistered (TaskRegistry.find taskType)
  publish := emit
  handle := onService (onPart (fun state => state.tasks ref)
    (fun state task => state.write ref task) turn.handle)
  delay := fun seconds =>
    onService (modify (fun state => state.write ref (turn.delay seconds (state.tasks ref))))
  task_write := fun wired task => by simp [TaskState.write]

theorem storedTask_keepsLimit (ref : TaskRef) (turn : Turn) :
    TaskExecutorService.KeepsLimit (storedTask ref turn) where
  publish event limit wired limited := by
    obtain ⟨state, bus⟩ := wired
    cases bus with
    | none => rwa [storedTask, emit_without_bus]
    | some bus => rwa [storedTask, emit_with_bus]
  handle limit wired limited := by
    obtain ⟨state, bus⟩ := wired
    have kept := turn.handle_keeps (state.tasks ref)
    simpa [TaskExecutorService.Limited, storedTask, TaskState.write, kept] using limited
  delay seconds limit wired limited := by
    obtain ⟨state, bus⟩ := wired
    have kept := turn.delay_keeps seconds (state.tasks ref)
    simpa [TaskExecutorService.Limited, storedTask, TaskState.write, kept] using limited

/-- The iterations that `execute` gives the loop of a stored task are enough for any task. -/
theorem storedTask_loop_ends (ref : TaskRef) (turn : Turn) (clock : Nat → Timestamp)
    (wired : Wired TaskState) (more : Nat) :
    call (TaskExecutorService.attemptsFrom (storedTask ref turn) clock
        ((wired.service.tasks ref).maxRetries.toNat + more) 1) wired =
      call (TaskExecutorService.attemptsFrom (storedTask ref turn) clock
        (wired.service.tasks ref).maxRetries.toNat 1) wired := by
  have enough : (wired.service.tasks ref).maxRetries <
      ((1 : Nat) : Int) + (wired.service.tasks ref).maxRetries.toNat := by omega
  exact TaskExecutorService.attemptsFrom_more clock (storedTask_keepsLimit ref turn) enough rfl more

/-- One execution of a batch: the task, what its handler does and the clock. -/
structure Execution where
  ref : TaskRef
  turn : Turn
  clock : Nat → Timestamp

def Execution.program (execution : Execution) : Py (Wired TaskState) TaskRef := do
  TaskExecutorService.execute (storedTask execution.ref execution.turn) execution.clock
  return execution.ref

def TaskExecutorService.executeBatch : List Execution → Py (Wired TaskState) (List TaskRef)
  | [] => return []
  | first :: rest => do
      let task ← first.program
      let tasks ← executeBatch rest
      return task :: tasks

/-- The calls of the service, of its registry, and the retry that a caller asks of a task. -/
inductive TaskOperation
  | execute (execution : Execution)
  | cancel (execution : Execution)
  | executeBatch (executions : List Execution)
  | register (taskType : String) (handlerGiven : Bool)
  | retry (execution : Execution)

inductive TaskAnswer
  | unit
  | task (ref : TaskRef)
  | tasks (refs : List TaskRef)
deriving DecidableEq, Repr

def TaskOperation.program : TaskOperation → Py (Wired TaskState) TaskAnswer
  | .execute execution => .task <$> execution.program
  | .cancel execution => (fun _ => .task execution.ref) <$>
      TaskExecutorService.cancel (storedTask execution.ref execution.turn) execution.clock
  | .executeBatch executions => .tasks <$> TaskExecutorService.executeBatch executions
  | .register taskType handlerGiven =>
      (fun _ => .unit) <$> onRegistered (TaskRegistry.register taskType handlerGiven)
  | .retry execution => (fun _ => .unit) <$>
      TaskExecutorService.onTask (storedTask execution.ref execution.turn) Task.retry

end LexMind.Tasks
